import Swatch.Proofs.Settings.Caching

/-!
# Settings that are loaded twice

A load takes out of the store what is kept under its key, and what is kept stays under its key until
the store is cleared (`kept_run`). No two keys share a handle, and no handle that was given out is
given to anything else (`Allotted`). So two loads of a session give the very same settings, edits
included, exactly if their keys agree and the store was not cleared between them
(`same_handle_iff`). Nothing else that happens between them counts: neither loads that fail, nor
what is done to the files, to the settings or to the notations that can be read.
-/

namespace Swatch.Settings

/-- Each handle that is kept is kept under one key alone; it was given out, and not before the
first `start` handles were. -/
structure Allotted (start : Nat) (store : Store) : Prop where
  grown : start ≤ store.documents.length
  kept : ∀ key handle, store.kept.lookup key = some handle →
    start ≤ handle ∧ handle < store.documents.length
  single : ∀ key key' handle, store.kept.lookup key = some handle →
    store.kept.lookup key' = some handle → key = key'

namespace Allotted

variable {start : Nat} {store : Store}

/-- Where nothing is kept, only handles to come will be. -/
theorem of_kept_nil (grown : start ≤ store.documents.length) (unkept : store.kept = []) :
    Allotted start store := by
  have absent (key : Key) : store.kept.lookup key = .none := by
    rw [unkept]
    rfl
  refine ⟨grown, fun key handle kept => ?_, fun key _ handle kept _ => ?_⟩
  · rw [absent key] at kept
    cases kept
  · rw [absent key] at kept
    cases kept

/-- What is added gets a handle of its own. -/
theorem add (allotted : Allotted start store) (key : Key) (members : Members) :
    Allotted start (store.add key members) := by
  have old {key handle} (kept : store.kept.lookup key = some handle) :
      handle ≠ store.documents.length :=
    Nat.ne_of_lt (allotted.kept key handle kept).2
  constructor
  · rw [Store.length_add]
    exact Nat.le_succ_of_le allotted.grown
  · intro key' handle kept
    rw [Store.length_add]
    rcases store.lookup_add key members kept with ⟨-, rfl⟩ | kept
    · exact ⟨allotted.grown, Nat.lt_succ_self _⟩
    · obtain ⟨late, given⟩ := allotted.kept key' handle kept
      exact ⟨late, Nat.lt_succ_of_lt given⟩
  · intro first second handle kept kept'
    rcases store.lookup_add key members kept with ⟨rfl, rfl⟩ | kept
    · rcases store.lookup_add _ members kept' with ⟨rfl, -⟩ | kept'
      · rfl
      · exact (old kept' rfl).elim
    · rcases store.lookup_add key members kept' with ⟨-, rfl⟩ | kept'
      · exact (old kept rfl).elim
      · exact allotted.single first second handle kept kept'

theorem edit (allotted : Allotted start store) (handle : Nat) (change : Members → Members) :
    Allotted start (store.edit handle change) := by
  have length : (store.edit handle change).documents.length = store.documents.length :=
    List.length_modify ..
  refine ⟨?_, ?_, allotted.single⟩
  · rw [length]
    exact allotted.grown
  · rw [length]
    exact allotted.kept

theorem load {session : Session} (allotted : Allotted start session.store) (request : Request) :
    Allotted start (session.load request).2.store := by
  rcases session.load_cases request with ⟨_, _, _, same⟩ | ⟨path, file, _, found | found⟩
  · rwa [same]
  · obtain ⟨handle, _, _, loaded⟩ := found
    rwa [loaded]
  · obtain ⟨_, members, _, _, loaded⟩ := found
    rw [loaded]
    exact allotted.add _ members

theorem after {session : Session} (allotted : Allotted start session.store) (step : Step) :
    Allotted start (session.after step).store := by
  cases step with
  | clear => exact of_kept_nil allotted.grown rfl
  | load request =>
    rw [Session.after_load]
    exact allotted.load request
  | options file relaxed =>
    rw [Session.after_options]
    exact allotted.load _
  | edit handle change => exact allotted.edit handle change
  | _ => exact allotted

theorem run {session : Session} (allotted : Allotted start session.store) (steps : List Step) :
    Allotted start (session.run steps).store := by
  induction steps generalizing session with
  | nil => exact allotted
  | cons step rest ih => exact ih (allotted.after step)

end Allotted

namespace Session

variable {session : Session} {request : Request} {loaded : Loaded} {key : Key} {handle : Nat}

/-! ## What stays -/

/-- What a load gives is kept under the key of its file. -/
theorem kept_of_load (given : (session.load request).1 = .ok loaded) :
    ∃ file, session.world.locate request = .ok (loaded.path, file) ∧
      (session.load request).2.store.kept.lookup (World.key request loaded.path file) =
        some loaded.handle := by
  rcases session.load_cases request with
      ⟨error, _, failed, _⟩ | ⟨path, file, located, found | found⟩
  · have refused : session.members request = .error error := failed
    rw [members, Store.loadMembers] at refused
    rw [load] at given
    cases own : session.store.load session.world request with
    | error cause =>
      rw [own] at given
      cases given
    | ok result =>
      rw [own] at refused
      cases refused
  · obtain ⟨handle, kept, -, result⟩ := found
    rw [result] at given ⊢
    cases given
    exact ⟨file, located, kept⟩
  · obtain ⟨-, members, -, -, result⟩ := found
    rw [result] at given ⊢
    cases given
    exact ⟨file, located, Entries.lookup_put_self _ _ _⟩

theorem kept_load (kept : session.store.kept.lookup key = some handle) (request : Request) :
    (session.load request).2.store.kept.lookup key = some handle := by
  rcases session.load_cases request with ⟨_, _, _, same⟩ | ⟨path, file, _, found | found⟩
  · rw [same]
    exact kept
  · obtain ⟨_, _, _, result⟩ := found
    rw [result]
    exact kept
  · obtain ⟨free, members, _, _, result⟩ := found
    have other : key ≠ World.key request path file := by
      rintro rfl
      rw [kept] at free
      cases free
    rw [result]
    exact (Entries.lookup_put_of_ne _ _ other).trans kept

theorem kept_after (kept : session.store.kept.lookup key = some handle) {step : Step}
    (other : step ≠ .clear) : (session.after step).store.kept.lookup key = some handle := by
  cases step with
  | clear => exact (other rfl).elim
  | load request =>
    rw [after_load]
    exact kept_load kept request
  | options file relaxed =>
    rw [after_options]
    exact kept_load kept _
  | _ => exact kept

/-- What is kept stays under its key as long as the store is not cleared. -/
theorem kept_run (kept : session.store.kept.lookup key = some handle) {steps : List Step}
    (uncleared : .clear ∉ steps) : (session.run steps).store.kept.lookup key = some handle := by
  induction steps generalizing session with
  | nil => exact kept
  | cons step rest ih =>
    rw [List.mem_cons, not_or] at uncleared
    exact ih (kept_after kept (Ne.symm uncleared.1)) uncleared.2

theorem run_cons (session : Session) (step : Step) (rest : List Step) :
    session.run (step :: rest) = (session.after step).run rest :=
  rfl

theorem run_append (session : Session) (first second : List Step) :
    session.run (first ++ second) = (session.run first).run second :=
  List.foldl_append

theorem length_le_load (session : Session) (request : Request) :
    session.store.documents.length ≤ (session.load request).2.store.documents.length := by
  rcases session.load_cases request with ⟨_, _, _, same⟩ | ⟨path, file, _, found | found⟩
  · exact Nat.le_of_eq (by rw [same])
  · obtain ⟨_, _, _, result⟩ := found
    exact Nat.le_of_eq (by rw [result])
  · obtain ⟨_, members, _, _, result⟩ := found
    rw [result, Store.length_add]
    exact Nat.le_succ _

theorem length_le_after (session : Session) (step : Step) :
    session.store.documents.length ≤ (session.after step).store.documents.length := by
  cases step with
  | load request =>
    rw [after_load]
    exact length_le_load session request
  | options file relaxed =>
    rw [after_options]
    exact length_le_load session _
  | edit handle change => exact Nat.le_of_eq (List.length_modify ..).symm
  | _ => exact Nat.le_refl _

theorem length_le_run (session : Session) (steps : List Step) :
    session.store.documents.length ≤ (session.run steps).store.documents.length := by
  induction steps generalizing session with
  | nil => exact Nat.le_refl _
  | cons step rest ih => exact Nat.le_trans (length_le_after session step) (ih (session.after step))

/-- After the store was cleared, a load gives a handle that was not given out before. -/
theorem handle_of_cleared {steps : List Step} (cleared : .clear ∈ steps)
    (given : ((session.run steps).load request).1 = .ok loaded) :
    session.store.documents.length ≤ loaded.handle := by
  obtain ⟨first, second, rfl⟩ := List.append_of_mem cleared
  have anew : Allotted session.store.documents.length ((session.run first).after .clear).store :=
    .of_kept_nil (length_le_run session first) rfl
  obtain ⟨file, -, kept⟩ := kept_of_load given
  rw [run_append, run_cons] at kept
  exact (((anew.run second).load request).kept _ _ kept).1

end Session

/-- Two loads of a session take the same settings out of the store, not only equal ones, exactly if
the store was not cleared between them, they lead to the same path, the file there has the same time
at both, as it is told, and they ask for the same encoding and notation. -/
theorem same_handle_iff (world : World) (before between : List Step) (request request' : Request)
    (loaded loaded' : Loaded)
    (first : ((Session.run { world } before).load request).1 = .ok loaded)
    (second : ((Session.run { world } (before ++ .load request :: between)).load request').1 =
      .ok loaded') :
    loaded.handle = loaded'.handle ↔
      .clear ∉ between ∧
        (∃ path file file',
          (Session.run { world } before).world.locate request = .ok (path, file) ∧
          (Session.run { world } (before ++ .load request :: between)).world.locate request' =
            .ok (path, file') ∧
          file.time = file'.time) ∧
        request.encoding = request'.encoding ∧ request.relaxed = request'.relaxed := by
  have start : Allotted 0 (Session.run { world } before).store :=
    (Allotted.of_kept_nil (Nat.le_refl 0) rfl : Allotted 0 {}).run before
  have whole : Session.run { world } (before ++ .load request :: between) =
      ((Session.run { world } before).load request).2.run between :=
    Session.run_append _ before (.load request :: between)
  rw [whole] at second ⊢
  have allotted := (start.load request).run between
  obtain ⟨file, located, kept⟩ := Session.kept_of_load first
  obtain ⟨file', located', kept'⟩ := Session.kept_of_load second
  constructor
  · intro same
    have uncleared : .clear ∉ between := fun cleared => by
      have given := ((start.load request).kept _ _ kept).2
      have later := Session.handle_of_cleared cleared second
      omega
    have kept := Session.kept_load (Session.kept_run kept uncleared) request'
    rw [same] at kept
    obtain ⟨path, time, encoding, relaxed⟩ :=
      Key.mk.inj ((allotted.load request').single _ _ _ kept kept')
    exact ⟨uncleared, ⟨loaded.path, file, file', located, by rw [path]; exact located', time⟩,
      encoding, relaxed⟩
  · rintro ⟨uncleared, ⟨path, own, own', place, place', time⟩, encoding, relaxed⟩
    have kept := Session.kept_load (Session.kept_run kept uncleared) request'
    have keys : World.key request loaded.path file = World.key request' loaded'.path file' := by
      obtain ⟨rfl, rfl⟩ := Prod.mk.inj (Except.ok.inj (place.symm.trans located))
      obtain ⟨same, rfl⟩ := Prod.mk.inj (Except.ok.inj (place'.symm.trans located'))
      rw [World.key, World.key, same, time, encoding, relaxed]
    rw [keys] at kept
    exact Option.some.inj (kept.symm.trans kept')

/-! ## A file that comes back -/

/-- The options file, with an empty object in it. -/
def writingOnce : List Step :=
  [.write "options.json" ⟨[0x7B, 0x7D], .ofNat 1000⟩]

/-- Somebody edits the settings in a file, the relaxed notation is given up, and a load fails. The
file is removed and written again, with other settings in it and the time that it had. -/
def replacing : List Step := [
  .edit 0 (Entries.put · "sort" (.string "hue")), .allowRelaxed false,
  .load { file := "missing.json" }, .remove "options.json", .makeDirectory "other",
  .write "options.json" ⟨[0x7B, 0x22, 0x61, 0x22, 0x3A, 0x31, 0x7D], .ofNat 1000⟩]

/-- A load before all that and one after it give the same settings. -/
theorem same_handle_replacing :
    ∃ loaded loaded' : Loaded,
      ((Session.run { world := .empty } writingOnce).load { file := "options.json" }).1 =
        .ok loaded ∧
      ((Session.run { world := .empty }
        (writingOnce ++ .load { file := "options.json" } :: replacing)).load
          { file := "other/../options.json" }).1 = .ok loaded' ∧
      loaded.handle = loaded'.handle := by
  have first : ((Session.run { world := .empty } writingOnce).load
      { file := "options.json" }).1 = .ok ⟨0, ⟨["tmp", "options.json"]⟩, true⟩ :=
    Outcome.eq_ok_of_toOption (by decide +kernel)
  have second : ((Session.run { world := .empty }
      (writingOnce ++ .load { file := "options.json" } :: replacing)).load
        { file := "other/../options.json" }).1 = .ok ⟨0, ⟨["tmp", "options.json"]⟩, false⟩ :=
    Outcome.eq_ok_of_toOption (by decide +kernel)
  have file : (Session.run { world := .empty } writingOnce).world.locate
      { file := "options.json" } =
        .ok (⟨["tmp", "options.json"]⟩, ⟨[0x7B, 0x7D], .ofNat 1000⟩) :=
    Outcome.eq_ok_of_toOption (by decide +kernel)
  have file' : (Session.run { world := .empty }
      (writingOnce ++ .load { file := "options.json" } :: replacing)).world.locate
        { file := "other/../options.json" } =
        .ok (⟨["tmp", "options.json"]⟩,
          ⟨[0x7B, 0x22, 0x61, 0x22, 0x3A, 0x31, 0x7D], .ofNat 1000⟩) :=
    Outcome.eq_ok_of_toOption (by decide +kernel)
  refine ⟨_, _, first, second, ?_⟩
  apply (same_handle_iff .empty writingOnce replacing _ _ _ _ first second).mpr
  exact ⟨by simp [replacing], ⟨_, _, _, file, file', rfl⟩, rfl, rfl⟩

end Swatch.Settings
