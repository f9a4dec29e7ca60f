import Swatch.Binary64.Decimal
import Swatch.Entries
import Swatch.Settings.Path

/-!
# Files and directories

The files and directories that paths lead to. Every path above a file or a directory is a
directory, and so is the root. A file is written together with the directories above it, a
directory is made only where nothing is, and only files are removed; what is in the way is reported
with the first step that meets it, and the directories that were made before it stay.

The time of a file is counted in thousand millionths of a second. It is rounded down to that when
it is set, and told in seconds.
-/

namespace Swatch.Settings

/-! ## Times -/

/-- The count of parts of a second in which times are kept. -/
def partsPerSecond : Nat := 1000000000

/-- A time in seconds as it is told once it was kept: a whole number of parts of a second that is
not above it. -/
def keptTime (seconds : Binary64) : Binary64 :=
  match seconds with
  | .finite negative units =>
    let whole := Binary64.signed negative (units / Binary64.unitsPerOne)
    let fraction := Binary64.finite negative (units % Binary64.unitsPerOne)
    match (fraction * .ofNat partsPerSecond).floor with
    | .ok parts =>
      .ofInt (whole + parts / partsPerSecond) +
        .ofDecimal false 1 (-9) * .ofInt (parts % partsPerSecond)
    | .error _ => seconds
  | _ => seconds

/-! ## Faults -/

/-- The content of a file, with the time of its last change. -/
structure File where
  bytes : List UInt8
  time : Binary64
  deriving DecidableEq, Repr

/-- Files and directories. -/
structure Disk where
  files : List (Path × File) := []
  directories : List Path := []

/-- Why a file or a directory cannot be opened, made or removed. -/
inductive DiskFault where
  | missing
  /-- There is something already. -/
  | present
  | notADirectory
  | isADirectory
  | nameTooLong
  | nullCharacter
  deriving DecidableEq, Repr

/-- What a message says about a fault, under the name that was given. -/
def DiskFault.message (text : String) : DiskFault → String
  | .missing => "[Errno 2] No such file or directory: " ++ Text.quoted text
  | .present => "[Errno 17] File exists: " ++ Text.quoted text
  | .notADirectory => "[Errno 20] Not a directory: " ++ Text.quoted text
  | .isADirectory => "[Errno 21] Is a directory: " ++ Text.quoted text
  | .nameTooLong => "[Errno 36] File name too long: " ++ Text.quoted text
  | .nullCharacter => "embedded null byte"

/-- A text with a null character leads nowhere. -/
def hasNull (text : String) : Bool :=
  text.toList.contains '\x00'

/-- The largest count of bytes in a name. -/
def nameLimit : Nat := 255

/-- The largest count of bytes in a path text. -/
def pathLimit : Nat := 4095

namespace Disk

/-! ## What is there -/

/-- The file at a path. -/
def file? (disk : Disk) (path : Path) : Option File :=
  disk.files.lookup path

/-- There is a directory at a path. -/
def isDirectory (disk : Disk) (path : Path) : Bool :=
  path == .root ||
    (disk.directories ++ (disk.directories ++ disk.files.map (·.1)).flatMap Path.above).contains
      path

/-- The disk with a file at a path. -/
def put (disk : Disk) (path : Path) (file : File) : Disk :=
  { disk with files := Entries.put disk.files path file }

/-- The disk with a directory at a path. -/
def putDirectory (disk : Disk) (path : Path) : Disk :=
  { disk with directories := disk.directories ++ [path] }

/-! ## Ways -/

/-- Where steps lead from a path. Unlike in a path, every directory on the way has to exist. -/
def walk (disk : Disk) (path : Path) : List String → Except DiskFault Path
  | [] => .ok path
  | step :: rest =>
    if disk.isDirectory path then
      if nameLimit < step.utf8ByteSize then .error .nameTooLong
      else walk disk (path.step step) rest
    else if (disk.file? path).isSome then .error .notADirectory
    else .error .missing

/-- The disk with the directories that steps from a directory lead through, as far as nothing is in
the way, and the last of them. A file in the way is taken for what should be made if it is at the
end or if a directory before it was made. -/
def makeWay (disk : Disk) (path : Path) (made : Bool) : List String → Disk × Except DiskFault Path
  | [] => (disk, .ok path)
  | step :: rest =>
    let next := path.step step
    if disk.isDirectory next then makeWay disk next made rest
    else if (disk.file? next).isSome then
      (disk, .error (if rest.isEmpty || made then .present else .notADirectory))
    else if nameLimit < step.utf8ByteSize then (disk, .error .nameTooLong)
    else makeWay (disk.putDirectory next) next true rest

/-- The steps of a text that can be a path. -/
def steps? (text : String) : Except DiskFault (List String) :=
  if hasNull text then .error .nullCharacter
  else if pathLimit < text.utf8ByteSize then .error .nameTooLong
  else .ok (steps text)

/-! ## Changes -/

/-- The disk once a file is written, with the directories above it, and what prevents it. -/
def write (disk : Disk) (here : Path) (text : String) (file : File) : Disk × Option DiskFault :=
  match steps? text with
  | .error fault => (disk, some fault)
  | .ok steps =>
    match disk.makeWay (.start here text) false steps.dropLast with
    | (disk, .error fault) => (disk, some fault)
    | (disk, .ok above) =>
      let path := steps.getLast?.elim above above.step
      if disk.isDirectory path then (disk, some .isADirectory)
      else if nameLimit < path.name.utf8ByteSize then (disk, some .nameTooLong)
      else (disk.put path { file with time := keptTime file.time }, none)

/-- The disk once a directory is made, with those above it, and what prevents it. -/
def makeDirectory (disk : Disk) (here : Path) (text : String) : Disk × Option DiskFault :=
  match steps? text with
  | .error fault => (disk, some fault)
  | .ok steps =>
    match disk.makeWay (.start here text) false steps.dropLast with
    | (after, .error .present) =>
      let made := disk.directories.length < after.directories.length
      (after, some (if made then .present else .notADirectory))
    | (disk, .error fault) => (disk, some fault)
    | (disk, .ok above) =>
      match steps.getLast? with
      | none => (disk, some .present)
      | some last =>
        let path := above.step last
        if disk.isDirectory path ∨ (disk.file? path).isSome then (disk, some .present)
        else if nameLimit < last.utf8ByteSize then (disk, some .nameTooLong)
        else (disk.putDirectory path, none)

/-- The disk once a file is removed. The directories above it stay. -/
def remove (disk : Disk) (here : Path) (text : String) : Except DiskFault Disk := do
  let path ← disk.walk (.start here text) (← steps? text)
  if disk.isDirectory path then throw .isADirectory
  if (disk.file? path).isNone then throw .missing
  return ⟨disk.files.filter (·.1 != path), disk.directories ++ path.above⟩

/-! ## Reading -/

/-- The file at a path. -/
def find (disk : Disk) (path : Path) : Except DiskFault File := do
  let found ← disk.walk .root (← steps? path.shown)
  match disk.file? found with
  | none => throw .missing
  | some file => return file

/-- The content of the file that a text leads to. -/
def content (disk : Disk) (here : Path) (text : String) : Except DiskFault (List UInt8) := do
  let steps ← steps? text
  if text = "" then throw .missing
  let path ← disk.walk (.start here text) steps
  if disk.isDirectory path then throw .isADirectory
  match disk.file? path with
  | none => throw .missing
  | some file =>
    let last := (text.toList.splitOnP (· == '/')).getLast?.getD []
    if last = [] ∨ last = ['.'] then throw .notADirectory else return file.bytes

end Disk

end Swatch.Settings
