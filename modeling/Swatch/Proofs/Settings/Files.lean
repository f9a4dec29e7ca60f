import Mathlib.Data.List.Basic
import Swatch.Settings.Session

/-!
# What steps do to files

A way that can be walked leads where its text says, whatever stands beside it (`walk_eq`,
`find_eq_ok`). So the files after a step are those before it, but for the one that a write puts
where its path resolves to (`file?_after`), and a step never moves the place or, unless it says so,
the notation that can be read.
-/

namespace Swatch.Settings

/-- Where the text of a path leads from the root. -/
def Path.reached (path : Path) : Path :=
  (steps path.shown).foldl step .root

/-- The file that a step writes, as it is told afterwards, and where. -/
def Step.written? (here : Path) : Step → Option (Path × File)
  | .write file content =>
    some (here.resolve file, { content with time := keptTime content.time })
  | _ => none

namespace Disk

variable {disk : Disk} {path found : Path} {file : File}

/-! ## Ways -/

theorem walk_eq {way : List String} (walked : disk.walk path way = .ok found) :
    found = way.foldl Path.step path := by
  induction way generalizing path with
  | nil => exact (Except.ok.inj walked).symm
  | cons step rest ih =>
    rw [walk] at walked
    split at walked
    next =>
      split at walked
      next => cases walked
      next => exact ih walked
    next => split at walked <;> cases walked

theorem steps?_eq_ok {text : String} {names : List String} (way : steps? text = .ok names) :
    names = steps text := by
  unfold steps? at way
  split at way
  next => cases way
  next =>
    split at way
    next => cases way
    next => exact (Except.ok.inj way).symm

/-- What is found at a path is the file where the text of the path leads. -/
theorem find_eq_ok (found : disk.find path = .ok file) : disk.file? path.reached = some file := by
  unfold find at found
  cases way : steps? path.shown with
  | error fault =>
    rw [way] at found
    cases found
  | ok names =>
    rw [way] at found
    cases walked : disk.walk .root names with
    | error fault =>
      simp only [bind, Except.bind, walked] at found
      cases found
    | ok last =>
      simp only [bind, Except.bind, walked] at found
      rw [walk_eq walked, steps?_eq_ok way] at found
      change disk.file? ((steps path.shown).foldl Path.step .root) = some file
      split at found
      next => cases found
      next own place => rw [place, Except.ok.inj found]

theorem makeWay_files (disk : Disk) (path : Path) (made : Bool) (way : List String) :
    (disk.makeWay path made way).1.files = disk.files := by
  induction way generalizing disk path made with
  | nil => rfl
  | cons step rest ih =>
    rw [makeWay]
    split
    next => exact ih disk _ made
    next =>
      split
      next => rfl
      next =>
        split
        next => rfl
        next => exact ih _ _ true

theorem makeWay_eq {made : Bool} {way : List String}
    (walked : (disk.makeWay path made way).2 = .ok found) : found = way.foldl Path.step path := by
  induction way generalizing disk path made with
  | nil => exact (Except.ok.inj walked).symm
  | cons step rest ih =>
    rw [makeWay] at walked
    split at walked
    next => exact ih walked
    next =>
      split at walked
      next => cases walked
      next =>
        split at walked
        next => cases walked
        next => exact ih walked

/-! ## Changes -/

theorem file?_put (disk : Disk) (path other : Path) (file : File) :
    (disk.put path file).file? other = if other = path then some file else disk.file? other := by
  unfold put file?
  split
  next same =>
    rw [same]
    exact Entries.lookup_put_self _ _ _
  next different => exact Entries.lookup_put_of_ne _ _ different

theorem file?_of_files {disk' : Disk} (same : disk'.files = disk.files) (path : Path) :
    disk'.file? path = disk.file? path := by
  rw [file?, file?, same]

/-- A write puts its file where its path resolves to, or no file anywhere. -/
theorem file?_write (disk : Disk) (here : Path) (text : String) (content : File) (path : Path) :
    (disk.write here text content).1.file? path = disk.file? path ∨
      path = here.resolve text ∧ (disk.write here text content).1.file? path =
        some { content with time := keptTime content.time } := by
  unfold write
  cases way : steps? text with
  | error fault => exact .inl rfl
  | ok names =>
    dsimp only
    have files := makeWay_files disk (.start here text) false names.dropLast
    cases outcome : disk.makeWay (.start here text) false names.dropLast with
    | mk after walked =>
      rw [outcome] at files
      cases walked with
      | error fault => exact .inl (file?_of_files files path)
      | ok above =>
        have place : names.getLast?.elim above above.step = here.resolve text := by
          have reached := makeWay_eq (congrArg Prod.snd outcome)
          rw [Path.resolve, ← steps?_eq_ok way, reached]
          rcases List.eq_nil_or_concat names with rfl | ⟨front, last, rfl⟩
          · rfl
          · simp
        dsimp only
        rw [place]
        split
        next => exact .inl (file?_of_files files path)
        next =>
          split
          next => exact .inl (file?_of_files files path)
          next =>
            rw [file?_put]
            split
            next same => exact .inr ⟨same, rfl⟩
            next => exact .inl (file?_of_files files path)

theorem file?_makeDirectory (disk : Disk) (here : Path) (text : String) (path : Path) :
    (disk.makeDirectory here text).1.file? path = disk.file? path := by
  unfold makeDirectory
  cases steps? text with
  | error fault => rfl
  | ok names =>
    dsimp only
    have files := makeWay_files disk (.start here text) false names.dropLast
    cases outcome : disk.makeWay (.start here text) false names.dropLast with
    | mk after walked =>
      rw [outcome] at files
      have same := file?_of_files files path
      cases walked with
      | error fault => cases fault <;> exact same
      | ok above =>
        dsimp only
        split
        next => exact same
        next =>
          split
          next => exact same
          next => split <;> exact same

theorem lookup_filter_of_ne {entries : List (Path × File)} {path other : Path}
    (different : other ≠ path) :
    (entries.filter (·.1 != path)).lookup other = entries.lookup other := by
  induction entries with
  | nil => rfl
  | cons entry rest ih =>
    obtain ⟨own, file⟩ := entry
    rw [List.filter_cons]
    split
    next => rw [List.lookup_cons, List.lookup_cons, ih]
    next same =>
      have away : (other == own) = false := by
        rw [beq_eq_false_iff_ne]
        rintro rfl
        exact same (bne_iff_ne.mpr different)
      rw [ih, List.lookup_cons, away]

theorem lookup_filter_self (entries : List (Path × File)) (path : Path) :
    (entries.filter (·.1 != path)).lookup path = none := by
  rw [List.lookup_eq_none_iff]
  intro entry member
  have away := (List.mem_filter.mp member).2
  rw [bne_iff_ne] at away
  exact bne_iff_ne.mpr (Ne.symm away)

/-- A removal leaves no file where there was none, and no other file than there was. -/
theorem file?_remove {disk' : Disk} {here : Path} {text : String}
    (removed : disk.remove here text = .ok disk') {path : Path} {file : File}
    (found : disk'.file? path = some file) : disk.file? path = some file := by
  unfold remove at removed
  cases way : steps? text with
  | error fault =>
    rw [way] at removed
    cases removed
  | ok names =>
    rw [way] at removed
    cases walked : disk.walk (.start here text) names with
    | error fault =>
      simp only [bind, Except.bind, walked] at removed
      cases removed
    | ok last =>
      simp only [bind, Except.bind, walked] at removed
      split at removed
      next => cases removed
      next =>
        split at removed
        next => cases removed
        next =>
          have files : disk'.files = disk.files.filter (·.1 != last) := by
            rw [← Except.ok.inj removed]
          rw [file?, files] at found
          rcases eq_or_ne path last with rfl | different
          · rw [lookup_filter_self] at found
            cases found
          · rwa [lookup_filter_of_ne different] at found

end Disk

namespace World

/-! ## Steps -/

variable {world : World} {path : Path} {file : File}

@[simp] theorem after_place (world : World) (step : Step) :
    (world.after step).place = world.place := by
  cases step with
  | remove text =>
    unfold after change
    dsimp only
    split <;> rfl
  | _ => rfl

/-- A file after a step is one before it, or what the step wrote there. -/
theorem file?_after {step : Step} (found : (world.after step).disk.file? path = some file) :
    world.disk.file? path = some file ∨ step.written? world.place.here = some (path, file) := by
  cases step with
  | write text content =>
    rcases world.disk.file?_write world.place.here text content path with same | ⟨rfl, own⟩
    · exact .inl (same.symm.trans found)
    · exact .inr (by rw [Step.written?, Option.some.inj (own.symm.trans found)])
  | makeDirectory text =>
    exact .inl ((world.disk.file?_makeDirectory world.place.here text path).symm.trans found)
  | remove text =>
    left
    unfold after change at found
    dsimp only at found
    split at found
    next disk removed => exact Disk.file?_remove removed found
    next => exact found
  | _ => exact .inl found

end World

end Swatch.Settings
