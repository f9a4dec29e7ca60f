import Swatch.Proofs.Outcome
import Swatch.Proofs.Settings.Files

/-!
# Settings that are kept are those in the file

A store keeps settings under the path, the time, the encoding and the notation of what was read. As
long as every file that is written has, as times are told, a time that no file had before at its
path, what is kept under a key is what reading the file gives (`Faithful`), and each load answers as
if nothing were kept (`answers_eq_read`). Times that differ only as they are given are not enough
(`not_answers_eq_read_of_given_times`).
-/

namespace Swatch.Settings

open Outcome (ok_bind)

/-! ## Reading without a store -/

namespace World

/-- The settings that a request asks for, read from its file as it is. -/
def settings (world : World) (request : Request) : Except LoadError Members := do
  let (path, file) ← world.locate request
  world.read request path file

/-- What the loads among steps answer when each of them reads its file. -/
def answers (world : World) : List Step → List (Except LoadError Members)
  | [] => []
  | step :: rest => (step.request?.map world.settings).toList ++ (world.after step).answers rest

end World

/-- What the loads among steps answer in a session. -/
def Session.answers (session : Session) : List Step → List (Except LoadError Members)
  | [] => []
  | step :: rest => (step.request?.map session.members).toList ++ (session.after step).answers rest

/-- A step that neither changes which notations can be read nor edits settings in place. -/
def Step.IsPlain : Step → Prop
  | .allowRelaxed _ | .edit _ _ => False
  | _ => True

/-- Where steps write, and the time of each file that is written. -/
def writes (told : Binary64 → Binary64) (here : Path) (steps : List Step) :
    List (Path × Binary64) :=
  steps.filterMap fun
    | .write file content => some (here.resolve file, told content.time)
    | _ => none

/-- Every write gives its file a time that no file had before at that path. -/
structure NewTimes (told : Binary64 → Binary64) (world : World) (steps : List Step) : Prop where
  distinct : (writes told world.place.here steps).Nodup
  fresh : ∀ path file, world.disk.file? path = some file →
    (path, file.time) ∉ writes told world.place.here steps

/-! ## What is kept -/

/-- What is kept in a session is what is read from files that were seen, those that are there now
among them; and no two files that were seen at one path have the same time. -/
structure Faithful (seen : Path → File → Prop) (session : Session) : Prop where
  present : ∀ path file, session.world.disk.file? path = some file → seen path file
  single : ∀ path file file', seen path file → seen path file' → file.time = file'.time →
    file = file'
  kept : ∀ key handle, session.store.kept.lookup key = some handle →
    handle < session.store.documents.length ∧
      ∃ file, seen key.path.reached file ∧ file.time = key.time ∧
        session.world.read ⟨"", key.encoding, key.relaxed⟩ key.path file =
          .ok (session.store.document handle)

namespace World

variable {world : World} {request : Request} {path : Path} {file : File}

theorem locate_eq_ok (located : world.locate request = .ok (path, file)) :
    world.disk.file? path.reached = some file := by
  unfold locate at located
  split at located
  next => cases located
  next =>
    split at located
    next => cases located
    next =>
      split at located
      next => cases located
      next =>
        split at located
        next => cases located
        next => cases located
        next own found =>
          obtain ⟨rfl, rfl⟩ := Prod.mk.inj (Except.ok.inj located)
          exact Disk.find_eq_ok found

/-- Reading asks only which notations can be read. -/
theorem read_congr {world' : World} (same : world'.readsRelaxed = world.readsRelaxed)
    (request : Request) (path : Path) (file : File) :
    world'.read request path file = world.read request path file := by
  unfold read decode
  rw [same]

theorem readsRelaxed_after {step : Step} (plain : step.IsPlain) :
    (world.after step).readsRelaxed = world.readsRelaxed := by
  cases step with
  | allowRelaxed allowed => exact plain.elim
  | remove text =>
    unfold after change
    dsimp only
    split <;> rfl
  | _ => rfl

end World

/-! ## Additions to a store -/

namespace Store

variable (store : Store) (key : Key) (members : Members) {key' : Key} {handle : Nat}

@[simp] theorem length_add :
    (store.add key members).documents.length = store.documents.length + 1 := by
  rw [add, List.length_append, List.length_singleton]

@[simp] theorem document_add_self :
    (store.add key members).document store.documents.length = members := by
  rw [document, add, List.getElem?_concat_length, Option.getD_some]

theorem document_add_of_lt (old : handle < store.documents.length) :
    (store.add key members).document handle = store.document handle := by
  rw [document, add, List.getElem?_append_left old, document]

/-- What is kept after an addition is what was added, or it was kept before. -/
theorem lookup_add (kept : (store.add key members).kept.lookup key' = some handle) :
    (key' = key ∧ handle = store.documents.length) ∨ store.kept.lookup key' = some handle := by
  change (Entries.put store.kept key store.documents.length).lookup key' = some handle at kept
  rcases eq_or_ne key' key with rfl | other
  · rw [Entries.lookup_put_self] at kept
    exact .inl ⟨rfl, (Option.some.inj kept).symm⟩
  · rw [Entries.lookup_put_of_ne _ _ other] at kept
    exact .inr kept

end Store

namespace Session

variable {session : Session} {seen : Path → File → Prop} {request : Request}

/-! ## Loads -/

@[simp] theorem load_world (session : Session) (request : Request) :
    (session.load request).2.world = session.world := by
  unfold load
  split <;> rfl

theorem after_load (session : Session) (request : Request) :
    session.after (.load request) = (session.load request).2 :=
  rfl

theorem after_options (session : Session) (file : String) (relaxed : Bool) :
    session.after (.options file relaxed) = (session.load { file, relaxed }).2 :=
  rfl

@[simp] theorem after_world (session : Session) (step : Step) :
    (session.after step).world = session.world.after step := by
  cases step with
  | load request =>
    rw [after_load, load_world]
    rfl
  | options file relaxed =>
    rw [after_options, load_world]
    rfl
  | _ => rfl

/-- A load finds what is kept under the key of its file, or it reads the file and keeps what is in
it; or it fails and changes nothing. -/
theorem load_cases (session : Session) (request : Request) :
    (∃ error, session.world.settings request = .error error ∧
      session.members request = .error error ∧ (session.load request).2 = session) ∨
    ∃ path file, session.world.locate request = .ok (path, file) ∧
      ((∃ handle, session.store.kept.lookup (World.key request path file) = some handle ∧
        session.members request = .ok (session.store.document handle) ∧
        session.load request = (.ok ⟨handle, path, false⟩, session)) ∨
      session.store.kept.lookup (World.key request path file) = none ∧
      ∃ members, session.world.read request path file = .ok members ∧
        session.members request = .ok members ∧
        session.load request = (.ok ⟨session.store.documents.length, path, true⟩,
          { session with store := session.store.add (World.key request path file) members })) := by
  unfold members load Store.loadMembers Store.load World.settings
  cases located : session.world.locate request with
  | error error => exact .inl ⟨error, rfl, rfl, rfl⟩
  | ok place =>
    obtain ⟨path, file⟩ := place
    simp only [ok_bind]
    cases kept : session.store.kept.lookup (World.key request path file) with
    | some handle => exact .inr ⟨path, file, rfl, .inl ⟨handle, kept, rfl, rfl⟩⟩
    | none =>
      cases read : session.world.read request path file with
      | error error => exact .inl ⟨error, rfl, rfl, rfl⟩
      | ok members =>
        refine .inr ⟨path, file, rfl, .inr ⟨kept, members, read, ?_, rfl⟩⟩
        exact congrArg Except.ok (session.store.document_add_self _ members)

/-- A load that fails leaves the session as it was. -/
theorem after_of_failed {step : Step} (asks : step.request? = some request) {error : LoadError}
    (failed : session.members request = .error error) : session.after step = session := by
  have unchanged : (session.load request).2 = session := by
    rcases session.load_cases request with
      ⟨_, _, _, same⟩ | ⟨path, file, _, found | ⟨_, members, _, read, _⟩⟩
    · exact same
    · obtain ⟨handle, _, read, _⟩ := found
      rw [read] at failed
      cases failed
    · rw [read] at failed
      cases failed
  cases step with
  | load own =>
    cases asks
    exact unchanged
  | options file relaxed =>
    cases asks
    exact unchanged
  | _ => cases asks

end Session

namespace Faithful

variable {session : Session} {seen : Path → File → Prop}

/-- A load answers what is in the file as it is. -/
theorem members_eq (faithful : Faithful seen session) (request : Request) :
    session.members request = session.world.settings request := by
  rcases session.load_cases request with ⟨error, read, own, -⟩ | ⟨path, file, located, found⟩
  · rw [read, own]
  · have read_eq : session.world.settings request = session.world.read request path file := by
      rw [World.settings, located, ok_bind]
    rcases found with ⟨handle, kept, own, -⟩ | ⟨-, members, read, own, -⟩
    · obtain ⟨-, file', before, time, read⟩ := faithful.kept _ handle kept
      have now := faithful.present path.reached file (World.locate_eq_ok located)
      have same : file' = file := faithful.single _ _ _ before now time
      rw [own, read_eq, ← read, same]
      rfl
    · rw [own, read_eq, read]

theorem load (faithful : Faithful seen session) (request : Request) :
    Faithful seen (session.load request).2 := by
  rcases session.load_cases request with ⟨_, _, _, same⟩ | ⟨path, file, located, found⟩
  · rwa [same]
  · rcases found with ⟨handle, _, _, loaded⟩ | ⟨_, members, read, _, loaded⟩
    · rwa [loaded]
    · rw [loaded]
      refine ⟨faithful.present, faithful.single, fun key handle kept => ?_⟩
      rcases session.store.lookup_add _ members kept with ⟨rfl, rfl⟩ | kept
      · have there := faithful.present _ _ (World.locate_eq_ok located)
        refine ⟨by simp, file, there, rfl, ?_⟩
        rw [Store.document_add_self]
        exact read
      · obtain ⟨old, own⟩ := faithful.kept key handle kept
        rw [Store.length_add, Store.document_add_of_lt _ _ _ old]
        exact ⟨Nat.lt_succ_of_lt old, own⟩

theorem clear (faithful : Faithful seen session) :
    Faithful seen { session with store := session.store.clear } :=
  ⟨faithful.present, faithful.single, fun _ _ kept => by cases kept⟩

/-- A step to files adds what it writes to what was seen. -/
theorem files (faithful : Faithful seen session) {step : Step} (plain : step.IsPlain)
    (new : ∀ path file, step.written? session.world.place.here = some (path, file) →
      ∀ file', seen path file' → file'.time ≠ file.time) :
    Faithful (fun path file => seen path file ∨
      step.written? session.world.place.here = some (path, file))
      { session with world := session.world.after step } := by
  refine ⟨fun path file found => ?_, fun path file file' own own' time => ?_,
    fun key handle kept => ?_⟩
  · exact (World.file?_after found).imp_left (faithful.present path file)
  · rcases own with own | own <;> rcases own' with own' | own'
    · exact faithful.single _ _ _ own own' time
    · exact (new path file' own' file own time).elim
    · exact (new path file own file' own' time.symm).elim
    · exact (Prod.mk.inj (Option.some.inj (own.symm.trans own'))).2
  · obtain ⟨old, file, before, time, read⟩ := faithful.kept key handle kept
    refine ⟨old, file, .inl before, time, ?_⟩
    rw [World.read_congr (World.readsRelaxed_after plain)]
    exact read

/-- What is kept stays what the files hold, whatever is done next. -/
theorem after (faithful : Faithful seen session) {step : Step} (plain : step.IsPlain)
    (new : ∀ path file, step.written? session.world.place.here = some (path, file) →
      ∀ file', seen path file' → file'.time ≠ file.time) :
    Faithful (fun path file => seen path file ∨
      step.written? session.world.place.here = some (path, file)) (session.after step) := by
  have same (unwritten : step.written? session.world.place.here = none) :
      (fun path file => seen path file ∨
        step.written? session.world.place.here = some (path, file)) = seen := by
    funext path file
    simp [unwritten]
  cases step with
  | load request =>
    rw [same rfl]
    exact faithful.load request
  | options file relaxed =>
    rw [same rfl]
    exact faithful.load _
  | clear =>
    rw [same rfl]
    exact faithful.clear
  | edit handle change => exact plain.elim
  | _ => exact faithful.files plain new

end Faithful

/-! ## Runs -/

theorem writes_cons (here : Path) (step : Step) (rest : List Step) :
    writes keptTime here (step :: rest) =
      ((step.written? here).map fun entry => (entry.1, entry.2.time)).toList ++
        writes keptTime here rest := by
  cases step <;> rfl

/-- Loads answer what is in the files as long as no time comes back. -/
theorem Faithful.answers_eq {session : Session} {seen : Path → File → Prop} {steps : List Step}
    (faithful : Faithful seen session) (plain : ∀ step ∈ steps, step.IsPlain)
    (distinct : (writes keptTime session.world.place.here steps).Nodup)
    (fresh : ∀ path file, seen path file →
      (path, file.time) ∉ writes keptTime session.world.place.here steps) :
    session.answers steps = session.world.answers steps := by
  induction steps generalizing session seen with
  | nil => rfl
  | cons step rest ih =>
    rw [List.forall_mem_cons] at plain
    rw [writes_cons] at distinct fresh
    have first : step.request?.map session.members = step.request?.map session.world.settings := by
      cases step.request? with
      | none => rfl
      | some request => exact congrArg some (faithful.members_eq request)
    have later : (session.after step).answers rest = (session.world.after step).answers rest := by
      -- What was seen grows by what the step writes, so the times of the rest stay new.
      have next := faithful.after plain.1 fun path file own file' before time => by
        refine fresh path file' before ?_
        rw [own, time]
        simp
      rw [← Session.after_world]
      refine ih next plain.2 ?_ fun path file own => ?_
      · rw [Session.after_world, World.after_place]
        exact (List.nodup_append.mp distinct).2.1
      · rw [Session.after_world, World.after_place]
        rcases own with before | own
        · exact fun member => fresh path file before (List.mem_append_right _ member)
        · rw [own] at distinct
          exact (List.nodup_cons.mp distinct).1
    rw [Session.answers, World.answers, first, later]

/-- Whatever is done with files and settings, as long as no write gives a file a time, as it is told
afterwards, that a file had before at its path, a load answers exactly what a load would answer
that keeps nothing and reads the file as it is. A load that fails changes nothing. -/
theorem answers_eq_read (world : World) (steps : List Step) (plain : ∀ step ∈ steps, step.IsPlain)
    (new : NewTimes keptTime world steps) :
    Session.answers { world } steps = world.answers steps ∧
      ∀ before request error, (Session.run { world } before).members request = .error error →
        (Session.run { world } before).after (.load request) = Session.run { world } before := by
  refine ⟨?_, fun before request error failed => Session.after_of_failed rfl failed⟩
  have start : Faithful (fun path file => world.disk.file? path = some file) { world } :=
    ⟨fun _ _ found => found,
      fun path file file' own own' _ => Option.some.inj (own.symm.trans own'),
      fun key handle kept => by cases kept⟩
  exact start.answers_eq plain new.distinct new.fresh

/-! ## A file that is written twice -/

/-- An empty directory. -/
def World.empty : World :=
  ⟨⟨⟨["tmp"]⟩, "/tmp", []⟩, ({} : Disk).putDirectory ⟨["tmp"]⟩, true⟩

/-- A file with an empty object is read, written again at a moment with a member in the object, and
read under another spelling of its path. -/
def rewriting (moment : Binary64) : List Step := [
  .write "options.json" ⟨[0x7B, 0x7D], .ofNat 1000⟩, .load { file := "options.json" },
  .write "options.json" ⟨[0x7B, 0x22, 0x61, 0x22, 0x3A, 0x31, 0x7D], moment⟩,
  .load { file := "./options.json" }]

theorem isPlain_rewriting (moment : Binary64) : ∀ step ∈ rewriting moment, step.IsPlain := by
  simp [rewriting, Step.IsPlain]

theorem newTimes_rewriting {told : Binary64 → Binary64} {moment : Binary64}
    (distinct : (writes told ⟨["tmp"]⟩ (rewriting moment)).Nodup) :
    NewTimes told .empty (rewriting moment) :=
  ⟨distinct, fun _ _ found => by cases found⟩

/-- Half a second later the member is found. -/
theorem answers_rewriting :
    NewTimes keptTime .empty (rewriting (.ofDecimal false 10005 (-1))) ∧
      Session.answers { world := .empty } (rewriting (.ofDecimal false 10005 (-1))) =
        World.empty.answers (rewriting (.ofDecimal false 10005 (-1))) ∧
      (World.empty.answers (rewriting (.ofDecimal false 10005 (-1)))).map
        (fun answer => answer.toOption.map List.length) = [some 0, some 1] := by
  have new : NewTimes keptTime .empty (rewriting (.ofDecimal false 10005 (-1))) :=
    newTimes_rewriting (by decide +kernel)
  exact ⟨new, (answers_eq_read _ _ (isPlain_rewriting _) new).1, by decide +kernel⟩

/-- Times that differ as they are given may be the same as they are told: a tenth of a thousand
millionth of a second later the member is not found. -/
theorem not_answers_eq_read_of_given_times :
    ¬∀ (world : World) (steps : List Step), (∀ step ∈ steps, step.IsPlain) →
      NewTimes id world steps → Session.answers { world } steps = world.answers steps := by
  intro faithful
  have new : NewTimes id .empty (rewriting (.ofDecimal false 10000000000001 (-10))) :=
    newTimes_rewriting (by decide +kernel)
  have same := congrArg (List.map fun answer => answer.toOption.map List.length)
    (faithful _ _ (isPlain_rewriting _) new)
  exact absurd same (by decide +kernel)

end Swatch.Settings
