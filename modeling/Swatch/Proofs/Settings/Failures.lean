import Swatch.Proofs.Settings.Caching
import Swatch.Proofs.Text.Classes

/-!
# Loads that fail

A load gives settings or leaves the session as it was. Three kinds of failures are announced: there
is no file to read, what it holds cannot be read as a value, or the value is no object. What else
may happen is told by `Session.Strays`: the path or the name of the encoding leads nowhere, or the
bytes of the file get a decoder stuck. A load fails in a way that is not announced exactly then
(`Session.load_announced_unless_strays`).
-/

namespace Swatch.Settings

open Outcome (ok_bind)

/-- The kinds of failures that are announced. -/
inductive Failure where
  /-- There is no file to read. -/
  | missing
  /-- What the file holds cannot be read as a value. -/
  | unreadable
  /-- The value in the file is no object. -/
  | notAnObject
  deriving DecidableEq, Repr

/-- The announced kind of a cause; some causes are of none. -/
def LoadError.failure? : LoadError → Option Failure
  | .fileMissing _ => some .missing
  | .notAnObject _ _ => some .notAnObject
  | .undecodable _ .stuck => none
  | .undecodable _ _ | .encodingNull _ | .relaxedMissing | .malformed _ _ _ | .malformedRelaxed _ =>
    some .unreadable
  | .homeUnknown | .nullCharacter | .nameTooLong _ | .encodingUnknown _ => none

/-- The path of a request leads to no place where a file could be. -/
inductive World.PathStrays (world : World) (request : Request) : Prop where
  /-- Its text holds a null character. -/
  | null (null : hasNull request.file)
  /-- It starts at the home of a user who has none. -/
  | homeless (unknown : world.place.locate? request.file = none)
  /-- It is longer than the path of any file, or a name on it is. -/
  | overlong {path : Path} (leads : world.place.locate? request.file = some path)
      (long : world.disk.find path = .error .nameTooLong)

/-- The encoding of a request is of no use for the bytes of a file. -/
inductive World.EncodingStrays (world : World) (request : Request) (file : File) : Prop where
  /-- No encoding has the name. -/
  | unnamed (proper : ¬hasNull request.encoding)
      (unknown : Text.Encoding.ofName? request.encoding = none)
  /-- The bytes cannot be read in a state that they lead to. -/
  | stuck {encoding : Text.Encoding} (proper : ¬hasNull request.encoding)
      (known : Text.Encoding.ofName? request.encoding = some encoding)
      (allowed : request.relaxed → world.readsRelaxed)
      (stuck : encoding.decode file.bytes = .error .stuck)

/-- What makes a load fail in a way that is not announced. The encoding counts only if the file has
to be read. -/
def Session.Strays (session : Session) (request : Request) : Prop :=
  session.world.PathStrays request ∨
    ∃ path file, session.world.locate request = .ok (path, file) ∧
      session.store.kept.lookup (World.key request path file) = none ∧
      session.world.EncodingStrays request file

/-! ## Paths -/

/-- A null character in the first step of a text is one in the text. -/
theorem hasNull_of_first {text : String} (null : hasNull ((steps text).headD "")) :
    hasNull text := by
  cases way : steps text with
  | nil =>
    rw [way] at null
    cases null
  | cons first rest =>
    rw [way] at null
    have member : first ∈ steps text := by
      rw [way]
      exact List.mem_cons_self
    obtain ⟨piece, own, rfl⟩ := List.mem_map.mp (List.mem_filter.mp member).1
    have inside : '\x00' ∈ piece := by
      simpa [hasNull] using null
    exact List.contains_iff_mem.mpr (Text.subset_of_mem_splitOnP own inside)

namespace World

variable {world : World} {request : Request} {path : Path} {file : File} {error : LoadError}

theorem pathStrays_of_located (located : world.locate request = .ok (path, file)) :
    ¬world.PathStrays request := by
  unfold locate at located
  rintro (null | unknown | @⟨own, leads, long⟩)
  · split at located
    next => cases located
    next =>
      split at located <;> cases located
  · rw [unknown] at located
    split at located <;> cases located
  · rw [leads] at located
    dsimp only at located
    rw [long] at located
    split at located
    next => cases located
    next => split at located <;> cases located

/-- A file that is not located is missing as announced, unless the path strays. -/
theorem failure_of_locate (failed : world.locate request = .error error) :
    error.failure? = none ↔ world.PathStrays request := by
  unfold locate at failed
  split at failed
  next null =>
    cases failed
    exact ⟨fun _ => .null (hasNull_of_first null), fun _ => rfl⟩
  next =>
    cases leads : world.place.locate? request.file with
    | none =>
      rw [leads] at failed
      cases failed
      exact ⟨fun _ => .homeless leads, fun _ => rfl⟩
    | some path =>
      rw [leads] at failed
      dsimp only at failed
      split at failed
      next null =>
        cases failed
        exact ⟨fun _ => .null null, fun _ => rfl⟩
      next proper =>
        split at failed
        next long =>
          cases failed
          exact ⟨fun _ => .overlong leads long, fun _ => rfl⟩
        next fault other found =>
          cases failed
          refine ⟨nofun, ?_⟩
          rintro (null | unknown | @⟨own, same, long⟩)
          · exact (proper null).elim
          · cases leads.symm.trans unknown
          · cases leads.symm.trans same
            exact (other (Except.error.inj (found.symm.trans long))).elim
        next => cases failed

/-! ## Texts -/

theorem encodingStrays_of_decoded {text : List Char}
    (decoded : world.decode request path file = .ok text) : ¬world.EncodingStrays request file := by
  unfold decode at decoded
  rintro (⟨proper, unknown⟩ | ⟨proper, known, allowed, stuck⟩)
  · rw [if_neg proper, unknown] at decoded
    cases decoded
  · rw [if_neg proper, known] at decoded
    dsimp only at decoded
    rw [stuck] at decoded
    split at decoded <;> cases decoded

/-- Bytes that are no text are unreadable as announced, unless the encoding strays. -/
theorem failure_of_decode (failed : world.decode request path file = .error error) :
    error.failure? = none ↔ world.EncodingStrays request file := by
  unfold decode at failed
  split at failed
  next null =>
    cases failed
    refine ⟨nofun, ?_⟩
    rintro (⟨proper, -⟩ | ⟨proper, -, -, -⟩)
    · exact (proper null).elim
    · exact (proper null).elim
  next proper =>
    split at failed
    next unknown =>
      cases failed
      exact ⟨fun _ => .unnamed proper unknown, fun _ => rfl⟩
    next encoding known =>
      split at failed
      next forbidden =>
        cases failed
        refine ⟨nofun, ?_⟩
        rintro (⟨-, unknown⟩ | ⟨-, -, allowed, -⟩)
        · cases known.symm.trans unknown
        · simp only [Bool.and_eq_true, Bool.not_eq_true'] at forbidden
          rw [allowed forbidden.1] at forbidden
          cases forbidden.2
      next allowed =>
        have able : request.relaxed → world.readsRelaxed := by
          simpa using allowed
        cases decoded : encoding.decode file.bytes with
        | ok text =>
          rw [decoded] at failed
          cases failed
        | error fault =>
          rw [decoded] at failed
          cases failed
          constructor
          · intro unannounced
            have stuck : fault = .stuck := by
              cases fault <;> first | rfl | cases unannounced
            exact .stuck proper known able (stuck ▸ decoded)
          · rintro (⟨-, unknown⟩ | ⟨-, own, -, stuck⟩)
            · cases known.symm.trans unknown
            · cases known.symm.trans own
              cases decoded.symm.trans stuck
              rfl

theorem failure_of_parse {text : List Char} (failed : parse request path text = .error error) :
    error.failure? = some .unreadable := by
  unfold parse at failed
  split at failed
  next =>
    split at failed
    next => cases failed
    next =>
      cases failed
      rfl
  next =>
    cases read : Json.readStrict text with
    | ok value =>
      rw [read] at failed
      cases failed
    | error cause =>
      rw [read] at failed
      cases failed
      rfl

theorem encodingStrays_of_read {members : Members}
    (read : world.read request path file = .ok members) : ¬world.EncodingStrays request file := by
  obtain ⟨text, decoded, -⟩ := Outcome.exists_of_bind_eq_ok read
  exact encodingStrays_of_decoded decoded

/-- A file that is not read fails as announced, unless the encoding strays. -/
theorem failure_of_read (failed : world.read request path file = .error error) :
    error.failure? = none ↔ world.EncodingStrays request file := by
  unfold read at failed
  cases decoded : world.decode request path file with
  | error cause =>
    rw [decoded] at failed
    cases failed
    exact failure_of_decode decoded
  | ok text =>
    have announced : error.failure? ≠ none := by
      rw [decoded, ok_bind] at failed
      cases parsed : parse request path text with
      | error cause =>
        rw [parsed] at failed
        cases failed
        rw [failure_of_parse parsed]
        exact Option.some_ne_none _
      | ok value =>
        rw [parsed, ok_bind] at failed
        cases value <;> cases failed <;> exact Option.some_ne_none _
    exact iff_of_false announced (encodingStrays_of_decoded decoded)

end World

/-! ## Loads -/

namespace Session

variable {session : Session} {request : Request}

theorem strays_of_not_located {error : LoadError}
    (failed : session.world.locate request = .error error) :
    session.Strays request ↔ session.world.PathStrays request := by
  constructor
  · rintro (path | ⟨path, file, located, -⟩)
    · exact path
    · cases failed.symm.trans located
  · exact .inl

theorem strays_of_located {path : Path} {file : File}
    (located : session.world.locate request = .ok (path, file)) :
    session.Strays request ↔
      session.store.kept.lookup (World.key request path file) = none ∧
        session.world.EncodingStrays request file := by
  constructor
  · rintro (strays | ⟨path', file', own, anew, encoding⟩)
    · exact (World.pathStrays_of_located located strays).elim
    · cases located.symm.trans own
      exact ⟨anew, encoding⟩
  · rintro ⟨anew, encoding⟩
    exact .inr ⟨path, file, located, anew, encoding⟩

theorem load_of_kept {path : Path} {file : File} {handle : Nat}
    (located : session.world.locate request = .ok (path, file))
    (kept : session.store.kept.lookup (World.key request path file) = some handle) :
    session.load request = (.ok ⟨handle, path, false⟩, session) := by
  rw [load, Store.load, located, ok_bind]
  simp only [kept]
  rfl

theorem load_of_read {path : Path} {file : File}
    (located : session.world.locate request = .ok (path, file))
    (anew : session.store.kept.lookup (World.key request path file) = none) :
    session.load request =
      match session.world.read request path file with
      | .error error => (.error error, session)
      | .ok members => (.ok ⟨session.store.documents.length, path, true⟩,
          { session with store := session.store.add (World.key request path file) members }) := by
  rw [load, Store.load, located, ok_bind]
  simp only [anew]
  cases session.world.read request path file <;> rfl

/-- The settings that a load gives are those of the handle. -/
theorem members_of_load {loaded : Loaded} {later : Session}
    (given : session.load request = (.ok loaded, later)) :
    session.members request = .ok (later.store.document loaded.handle) := by
  unfold load at given
  rw [members, Store.loadMembers]
  cases own : session.store.load session.world request with
  | error error =>
    rw [own] at given
    cases given
  | ok result =>
    rw [own] at given
    cases given
    rfl

/-- A load either gives settings, and nothing about its request strays; or it fails and leaves the
session as it was, and its failure is of an announced kind exactly if nothing about the request
strays. -/
theorem load_announced_unless_strays (session : Session) (request : Request) :
    (∃ loaded later, session.load request = (.ok loaded, later) ∧
      session.members request = .ok (later.store.document loaded.handle) ∧
      ¬session.Strays request) ∨
    ∃ error, session.load request = (.error error, session) ∧
      (error.failure? = none ↔ session.Strays request) := by
  cases located : session.world.locate request with
  | error error =>
    refine .inr ⟨error, ?_, ?_⟩
    · rw [load, Store.load, located]
      rfl
    · rw [strays_of_not_located located]
      exact World.failure_of_locate located
  | ok place =>
    obtain ⟨path, file⟩ := place
    rw [strays_of_located located]
    cases kept : session.store.kept.lookup (World.key request path file) with
    | some handle =>
      have given := load_of_kept located kept
      refine .inl ⟨_, _, given, members_of_load given, ?_⟩
      rintro ⟨anew, -⟩
      cases anew
    | none =>
      have given := load_of_read located kept
      cases read : session.world.read request path file with
      | error error =>
        rw [read] at given
        refine .inr ⟨error, given, ?_⟩
        rw [World.failure_of_read read]
        exact (and_iff_right rfl).symm
      | ok contents =>
        rw [read] at given
        refine .inl ⟨_, _, given, members_of_load given, ?_⟩
        rintro ⟨-, encoding⟩
        exact World.encodingStrays_of_read read encoding

end Session

end Swatch.Settings
