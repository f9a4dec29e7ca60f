import Swatch.Json.Relaxed
import Swatch.Options
import Swatch.Settings.Disk
import Swatch.Text.Encoding

/-!
# Settings from files

The settings of a file are the members of the one JSON object in it. They are kept in a store under
the path, the time of the last change, the encoding and the notation, and a file is read again only
when one of these differs. A read that fails leaves the store as it was. What is taken out of the
store is a handle to the settings, not a copy: a change made through it is seen by all who took the
same settings.
-/

namespace Swatch.Settings

/-- The members of an object. -/
abbrev Members := List (String × Json)

/-- Why there are no settings. -/
inductive LoadError where
  /-- The home of a user is not known. -/
  | homeUnknown
  /-- A path text with a null character. -/
  | nullCharacter
  /-- A path with a name that no file can have. -/
  | nameTooLong (path : Path)
  | fileMissing (path : Path)
  /-- The name of an encoding with a null character. -/
  | encodingNull (path : Path)
  | encodingUnknown (name : String)
  /-- The relaxed notation is asked for, but cannot be read here. -/
  | relaxedMissing
  | undecodable (path : Path) (cause : Text.DecodeFault)
  | malformed (path : Path) (text : List Char) (cause : Json.Refusal)
  | malformedRelaxed (path : Path)
  | notAnObject (path : Path) (kind : String)
  deriving DecidableEq, Repr

/-- What a message says about missing settings. -/
def LoadError.message : LoadError → String
  | .homeUnknown => "Could not determine home directory."
  | .nullCharacter => DiskFault.nullCharacter.message ""
  | .nameTooLong path => DiskFault.nameTooLong.message path.shown
  | .fileMissing path => "Config file not found: " ++ path.shown
  | .encodingNull path => "Invalid JSON5 in " ++ path.shown ++ ": embedded null character"
  | .encodingUnknown name => "unknown encoding: " ++ name
  | .relaxedMissing => "json5 requested (allow_comments=True) but not installed"
  | .undecodable path cause => "Invalid JSON5 in " ++ path.shown ++ ": " ++ cause.message
  | .malformed path text cause =>
    let form := match cause with
      | .fault _ _ => "JSON"
      | .tooManyDigits _ => "JSON5"
    "Invalid " ++ form ++ " in " ++ path.shown ++ ": " ++ cause.message text
  | .malformedRelaxed path => "Invalid JSON5 in " ++ path.shown ++ ": not a value"
  | .notAnObject path kind => path.name ++ ": expected a JSON object, got " ++ kind

/-- What settings are asked for. -/
structure Request where
  file : String
  encoding : String := Text.Encoding.defaultName
  /-- The file may be written in the relaxed notation. -/
  relaxed : Bool := false
  deriving DecidableEq, Repr

/-- Where settings come from. -/
structure World where
  place : Place
  disk : Disk
  /-- The relaxed notation can be read. -/
  readsRelaxed : Bool := true

/-- What settings are kept under. -/
structure Key where
  path : Path
  time : Binary64
  encoding : String
  relaxed : Bool
  deriving DecidableEq, Repr

namespace World

/-- The path that a request leads to, and the file there. The user whose home it starts from is
looked up before the rest of the path is read. -/
def locate (world : World) (request : Request) : Except LoadError (Path × File) :=
  if hasNull ((steps request.file).headD "") then .error .nullCharacter
  else
    match world.place.locate? request.file with
    | none => .error .homeUnknown
    | some path =>
      if hasNull request.file then .error .nullCharacter
      else
        match world.disk.find path with
        | .error .nameTooLong => .error (.nameTooLong path)
        | .error _ => .error (.fileMissing path)
        | .ok file => .ok (path, file)

/-- What the settings of a request are kept under. -/
def key (request : Request) (path : Path) (file : File) : Key :=
  ⟨path, file.time, request.encoding, request.relaxed⟩

/-- The text of a file. -/
def decode (world : World) (request : Request) (path : Path) (file : File) :
    Except LoadError (List Char) :=
  if hasNull request.encoding then .error (.encodingNull path)
  else
    match Text.Encoding.ofName? request.encoding with
    | none => .error (.encodingUnknown request.encoding)
    | some encoding =>
      if request.relaxed && !world.readsRelaxed then .error .relaxedMissing
      else (encoding.decode file.bytes).mapError (.undecodable path ·)

/-- The value that the text of a file holds. -/
def parse (request : Request) (path : Path) (text : List Char) : Except LoadError Json :=
  if request.relaxed then
    match Json.readRelaxed? text with
    | some value => .ok value
    | none => .error (.malformedRelaxed path)
  else (Json.readStrict text).mapError (.malformed path text ·)

/-- The settings in a file. -/
def read (world : World) (request : Request) (path : Path) (file : File) :
    Except LoadError Members := do
  let text ← world.decode request path file
  match ← parse request path text with
  | .object members => return members
  | value => throw (.notAnObject path value.kindName)

end World

/-! ## The store -/

/-- Settings that were read. -/
structure Store where
  /-- All settings that were ever read, in order; a handle is an index. -/
  documents : List Members := []
  /-- The settings that are kept. -/
  kept : List (Key × Nat) := []

/-- Settings taken out of the store. -/
structure Loaded where
  handle : Nat
  path : Path
  /-- They were read from the file just now. -/
  fresh : Bool
  deriving DecidableEq, Repr

namespace Store

/-- The settings of a handle. -/
def document (store : Store) (handle : Nat) : Members :=
  store.documents[handle]?.getD []

/-- The store with new settings kept under a key. -/
def add (store : Store) (key : Key) (members : Members) : Store :=
  ⟨store.documents ++ [members], Entries.put store.kept key store.documents.length⟩

/-- The settings that a request asks for, and the store afterwards. -/
def load (store : Store) (world : World) (request : Request) :
    Except LoadError (Loaded × Store) := do
  let (path, file) ← world.locate request
  let key := World.key request path file
  match store.kept.lookup key with
  | some handle => return (⟨handle, path, false⟩, store)
  | none =>
    let members ← world.read request path file
    return (⟨store.documents.length, path, true⟩, store.add key members)

/-- The store without any settings kept. Handles stay good. -/
def clear (store : Store) : Store :=
  { store with kept := [] }

/-- The store after the settings of a handle are edited in place. Without such settings nothing
changes. -/
def edit (store : Store) (handle : Nat) (change : Members → Members) : Store :=
  { store with documents := store.documents.modify handle change }

/-- The settings that a request asks for as members, and the store afterwards. -/
def loadMembers (store : Store) (world : World) (request : Request) :
    Except LoadError (Members × Store) := do
  let (loaded, store) ← store.load world request
  return (store.document loaded.handle, store)

end Store

end Swatch.Settings
