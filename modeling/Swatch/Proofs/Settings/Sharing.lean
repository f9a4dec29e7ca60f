import Swatch.Proofs.Settings.Caching

/-!
# Settings that are kept are shared

What is loaded is not a copy: whoever edits settings in place edits what the store keeps. While the
files stay as they are, the options in a file are those of its contents with all edits that were
made through the handle a load would give (`options_eq_edited`). They are the options of the
contents alone if nobody edited what was loaded for them, and after the store was cleared.
-/

namespace Swatch.Settings

open Outcome (ok_bind)

/-- A step that leaves the files as they are, and the notations that can be read. -/
def Step.IsStill : Step → Prop
  | .clear | .load _ | .options _ _ | .edit _ _ => True
  | _ => False

/-- Settings after edits, made in turn. -/
def edited (changes : List (Members → Members)) (members : Members) : Members :=
  changes.foldl (fun members change => change members) members

namespace Session

/-- The edit that a step makes to the settings of a handle. Through a handle that was not given out
nothing is edited. -/
def edit? (session : Session) (handle : Nat) : Step → Option (Members → Members)
  | .edit own change =>
    if own = handle ∧ handle < session.store.documents.length then some change else none
  | _ => none

/-- The edits that steps make to the settings of a handle. -/
def edits (session : Session) (handle : Nat) : List Step → List (Members → Members)
  | [] => []
  | step :: rest => (session.edit? handle step).toList ++ (session.after step).edits handle rest

/-- What is kept in a session is what its file holds, after the edits made to it; and nobody has
edited what was not yet given out. -/
structure Shared (made : Nat → List (Members → Members)) (session : Session) : Prop where
  ungiven : ∀ handle, session.store.documents.length ≤ handle → made handle = []
  kept : ∀ key handle, session.store.kept.lookup key = some handle →
    handle < session.store.documents.length ∧
      ∃ file contents, session.world.disk.file? key.path.reached = some file ∧
        session.world.read ⟨"", key.encoding, key.relaxed⟩ key.path file = .ok contents ∧
        session.store.document handle = edited (made handle) contents

variable {session : Session} {made : Nat → List (Members → Members)}

@[simp] theorem edited_nil (members : Members) : edited [] members = members :=
  rfl

theorem edited_append (changes more : List (Members → Members)) (members : Members) :
    edited (changes ++ more) members = edited more (edited changes members) :=
  List.foldl_append

theorem after_of_still (world : World) {step : Step} (still : step.IsStill) :
    world.after step = world := by
  cases step <;> first | rfl | exact still.elim

theorem Shared.load (shared : Shared made session) (request : Request) :
    Shared made (session.load request).2 := by
  rcases session.load_cases request with ⟨_, _, _, same⟩ | ⟨path, file, located, found⟩
  · rwa [same]
  · rcases found with ⟨handle, _, _, loaded⟩ | ⟨_, members, read, _, loaded⟩
    · rwa [loaded]
    · rw [loaded]
      constructor
      · intro handle beyond
        rw [Store.length_add] at beyond
        exact shared.ungiven handle (Nat.le_of_succ_le beyond)
      · intro key handle kept
        rcases session.store.lookup_add _ members kept with ⟨rfl, rfl⟩ | kept
        · refine ⟨by simp, file, members, World.locate_eq_ok located, read, ?_⟩
          rw [Store.document_add_self, shared.ungiven _ (Nat.le_refl _), edited_nil]
        · obtain ⟨old, own⟩ := shared.kept key handle kept
          rw [Store.length_add, Store.document_add_of_lt _ _ _ old]
          exact ⟨Nat.lt_succ_of_lt old, own⟩

theorem Shared.edit (shared : Shared made session) (handle : Nat) (change : Members → Members) :
    Shared (fun own => made own ++ (session.edit? own (.edit handle change)).toList)
      { session with store := session.store.edit handle change } := by
  constructor
  · intro own beyond
    change (session.store.documents.modify handle change).length ≤ own at beyond
    rw [List.length_modify] at beyond
    have new : session.edit? own (.edit handle change) = none := if_neg fun given => by omega
    rw [shared.ungiven own beyond, new]
    rfl
  · intro key own kept
    obtain ⟨old, file, contents, place, read, before⟩ := shared.kept key own kept
    refine ⟨?_, file, contents, place, read, ?_⟩
    · change own < (session.store.documents.modify handle change).length
      rwa [List.length_modify]
    · have given : session.store.documents[own]? = some session.store.documents[own] :=
        List.getElem?_eq_getElem old
      have document : session.store.document own = session.store.documents[own] := by
        rw [Store.document, given, Option.getD_some]
      rw [edited_append, ← before, document]
      change (session.store.documents.modify handle change)[own]?.getD [] = _
      rw [List.getElem?_modify, given]
      rcases eq_or_ne handle own with rfl | other
      · simp [edit?, old, edited]
      · simp [edit?, other]

theorem Shared.after (shared : Shared made session) {step : Step} (still : step.IsStill) :
    Shared (fun handle => made handle ++ (session.edit? handle step).toList)
      (session.after step) := by
  have same (unedited : ∀ handle, session.edit? handle step = none) :
      (fun handle => made handle ++ (session.edit? handle step).toList) = made := by
    funext handle
    rw [unedited, Option.toList_none, List.append_nil]
  cases step with
  | load request =>
    rw [same fun _ => rfl]
    exact shared.load request
  | options file relaxed =>
    rw [same fun _ => rfl]
    exact shared.load _
  | clear =>
    rw [same fun _ => rfl]
    exact ⟨shared.ungiven, fun _ _ kept => by cases kept⟩
  | edit handle change => exact shared.edit handle change
  | _ => exact still.elim

theorem Shared.run {steps : List Step} (shared : Shared made session)
    (still : ∀ step ∈ steps, step.IsStill) :
    Shared (fun handle => made handle ++ session.edits handle steps) (session.run steps) := by
  induction steps generalizing session made with
  | nil => simpa [edits, Session.run] using shared
  | cons step rest ih =>
    rw [List.forall_mem_cons] at still
    have later := ih (shared.after still.1) still.2
    simp only [List.append_assoc] at later
    exact later

theorem run_world {steps : List Step} (session : Session) (still : ∀ step ∈ steps, step.IsStill) :
    (session.run steps).world = session.world := by
  induction steps generalizing session with
  | nil => rfl
  | cons step rest ih =>
    rw [List.forall_mem_cons] at still
    have first : (session.after step).world = session.world := by
      rw [after_world, after_of_still _ still.1]
    exact (ih (session.after step) still.2).trans first

/-- What a load gives while the files stay as they are: the contents of its file with the edits that
were made through the handle. -/
theorem Shared.load_eq (shared : Shared made session) {request : Request} {contents : Members}
    (read : session.world.settings request = .ok contents) :
    ∃ loaded, (session.load request).1 = .ok loaded ∧
      session.members request = .ok (edited (made loaded.handle) contents) := by
  rcases session.load_cases request with ⟨error, failed, _⟩ | ⟨path, file, located, found⟩
  · rw [failed] at read
    cases read
  · rw [World.settings, located, ok_bind] at read
    rcases found with ⟨handle, kept, own, loaded⟩ | ⟨-, members, read', own, loaded⟩
    · refine ⟨_, congrArg Prod.fst loaded, ?_⟩
      obtain ⟨-, file', contents', place, read', document⟩ := shared.kept _ handle kept
      have same : file' = file :=
        Option.some.inj (place.symm.trans (World.locate_eq_ok located))
      have whole : contents' = contents := by
        rw [same] at read'
        exact Except.ok.inj (read'.symm.trans read)
      rw [own, document, whole]
    · refine ⟨_, congrArg Prod.fst loaded, ?_⟩
      dsimp only
      rw [shared.ungiven _ (Nat.le_refl _), own]
      exact read'.symm.trans read

/-- Once the store was cleared, a load reads its file. -/
theorem members_of_cleared {request : Request} {contents : Members}
    (read : session.world.settings request = .ok contents) :
    (session.after .clear).members request = .ok contents := by
  rcases (session.after .clear).load_cases request with
    ⟨error, failed, _⟩ | ⟨path, file, located, found⟩
  · cases failed.symm.trans read
  · rcases found with ⟨handle, kept, _⟩ | ⟨-, members, read', own, -⟩
    · cases kept
    · change (session.after .clear).world.settings request = .ok contents at read
      rw [World.settings, located, ok_bind] at read
      rw [own]
      exact read'.symm.trans read

theorem edits_eq_nil {steps : List Step} {handle : Nat}
    (other : ∀ step ∈ steps, ∀ own change, step = .edit own change → own ≠ handle) :
    session.edits handle steps = [] := by
  induction steps generalizing session with
  | nil => rfl
  | cons step rest ih =>
    rw [List.forall_mem_cons] at other
    have first : session.edit? handle step = none := by
      cases step with
      | edit own change => exact if_neg fun given => other.1 own change rfl given.1
      | _ => rfl
    rw [edits, first, ih other.2]
    rfl

end Session

/-- Loads, edits of what was loaded and clearings of the store, while the files stay as they are:
the options in a file are those of its contents after the edits that were made through the handle
under which a load would now give them. So they are those of its contents alone if all edits were
made through other handles, and once the store was cleared. -/
theorem options_eq_edited (world : World) (steps : List Step) (still : ∀ step ∈ steps, step.IsStill)
    (file : String) (relaxed : Bool) (contents : Members)
    (read : world.settings { file, relaxed } = .ok contents) :
    (∃ loaded, ((Session.run { world } steps).load { file, relaxed }).1 = .ok loaded ∧
      (Session.run { world } steps).options file relaxed =
        .ok (.ofMembers (edited (Session.edits { world } loaded.handle steps) contents)) ∧
      ((∀ step ∈ steps, ∀ own change, step = .edit own change → own ≠ loaded.handle) →
        (Session.run { world } steps).options file relaxed = .ok (.ofMembers contents))) ∧
      (Session.run { world } (steps ++ [.clear])).options file relaxed =
        .ok (.ofMembers contents) := by
  have start : Session.Shared (fun _ => []) { world } :=
    ⟨fun _ _ => rfl, fun _ _ kept => by cases kept⟩
  have shared := start.run still
  have there : (Session.run { world } steps).world.settings { file, relaxed } = .ok contents := by
    rw [Session.run_world _ still]
    exact read
  refine ⟨?_, ?_⟩
  · obtain ⟨loaded, given, members⟩ := shared.load_eq there
    have options : (Session.run { world } steps).options file relaxed =
        .ok (.ofMembers (edited (Session.edits { world } loaded.handle steps) contents)) := by
      rw [Session.options, members]
      rfl
    refine ⟨loaded, given, options, fun other => ?_⟩
    rw [options, Session.edits_eq_nil other]
    rfl
  · have cleared : Session.run { world } (steps ++ [.clear]) =
        (Session.run { world } steps).after .clear := List.foldl_append
    rw [cleared, Session.options, Session.members_of_cleared there]
    rfl

/-! ## An edit that shows -/

/-- The empty directory once the options for an order by hue were written into it. -/
def World.ordered : World :=
  World.empty.after (.write "options.json"
    ⟨[0x7B, 0x22, 0x73, 0x6F, 0x72, 0x74, 0x22, 0x3A, 0x22, 0x68, 0x75, 0x65, 0x22, 0x7D],
      .ofNat 1000⟩)

/-- Somebody loads the options and edits the order in them. -/
def reordering : List Step :=
  [.load { file := "options.json" }, .edit 0 (Entries.put · "sort" (.string "frequency"))]

/-- The options in the file are those with the edit: not the order that is written there. -/
theorem options_reordering :
    World.ordered.settings { file := "options.json" } = .ok [("sort", .string "hue")] ∧
      (Options.ofMembers [("sort", .string "hue")]).order = .byHue ∧
      ∃ options, (Session.run { world := .ordered } reordering).options "options.json" false =
        .ok options ∧ options.order = .byFrequency := by
  have read : World.ordered.settings { file := "options.json" } =
      .ok [("sort", .string "hue")] := by
    with_unfolding_all rfl
  obtain ⟨loaded, given, options, -⟩ := (options_eq_edited .ordered reordering
    (by simp [reordering, Step.IsStill]) "options.json" false _ read).1
  have first : ((Session.run { world := .ordered } reordering).load
      { file := "options.json" }).1.toOption.map Loaded.handle = some 0 := by
    decide +kernel
  have handle : loaded.handle = 0 := by
    rw [given] at first
    exact Option.some.inj first
  rw [handle] at options
  exact ⟨read, by decide, _, options, by decide +kernel⟩

end Swatch.Settings
