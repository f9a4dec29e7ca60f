import Swatch.ExtractionError

/-!
# Outcomes without their causes

Two computations that fail at different places of the same input agree once the cause is forgotten:
`Except.toOption` keeps the result and drops the cause. Without causes the order of two steps that
may fail does not matter, so a second pass over all results may as well follow up each result at
once (`bind_mapM_flatten`).
-/

namespace Swatch.Outcome

variable {ε α β γ : Type}

/-! ## Forgetting the cause -/

theorem toOption_bind (x : Except ε α) (f : α → Except ε β) :
    (x >>= f).toOption = x.toOption.bind fun a => (f a).toOption := by
  cases x <;> rfl

theorem toOption_map (x : Except ε α) (f : α → β) :
    (x.map f).toOption = x.toOption.map f := by
  cases x <;> rfl

theorem toOption_mapM (f : α → Except ε β) (xs : List α) :
    (xs.mapM f).toOption = xs.mapM fun x => (f x).toOption := by
  induction xs with
  | nil => rfl
  | cons x xs ih =>
    rw [List.mapM_cons, List.mapM_cons, toOption_bind]
    cases f x with
    | error cause => rfl
    | ok y =>
      simp only [toOption_bind, ih]
      rfl

theorem ok_bind (result : α) (f : α → Except ε β) :
    ((Except.ok result : Except ε α) >>= f) = f result :=
  rfl

theorem eq_ok_of_toOption {x : Except ε α} {result : α} (found : x.toOption = some result) :
    x = .ok result := by
  cases x with
  | error cause => cases found
  | ok own => exact congrArg Except.ok (Option.some.inj found)

theorem eq_ok_of_mapError {ε' : Type} {x : Except ε α} {f : ε → ε'} {result : α}
    (found : x.mapError f = .ok result) : x = .ok result := by
  cases x with
  | error cause => cases found
  | ok own => exact congrArg Except.ok (Except.ok.inj found)

/-! ## Causes -/

/-- Where there is no result, the cause is one of these. -/
def FailsWith (P : ε → Prop) (x : Except ε α) : Prop :=
  ∀ cause, x = .error cause → P cause

section Causes

variable {P : ε → Prop}

theorem FailsWith.ok (result : α) : FailsWith P (.ok result) :=
  fun _ failed => by cases failed

theorem FailsWith.bind {x : Except ε α} {f : α → Except ε β} (first : FailsWith P x)
    (second : ∀ part, x = .ok part → FailsWith P (f part)) : FailsWith P (x >>= f) := by
  cases x with
  | error cause =>
    intro other failed
    rw [← Except.error.inj failed]
    exact first cause rfl
  | ok part => exact second part rfl

theorem FailsWith.mapM {f : α → Except ε β} {xs : List α} (each : ∀ x ∈ xs, FailsWith P (f x)) :
    FailsWith P (xs.mapM f) := by
  induction xs with
  | nil => exact .ok []
  | cons x xs ih =>
    rw [List.forall_mem_cons] at each
    rw [List.mapM_cons]
    exact each.1.bind fun _ _ => (ih each.2).bind fun _ _ => .ok _

end Causes

/-! ## Results of parts -/

theorem mapM_congr {f g : α → Except ε β} {xs : List α} (same : ∀ x ∈ xs, f x = g x) :
    xs.mapM f = xs.mapM g := by
  induction xs with
  | nil => rfl
  | cons x xs ih =>
    rw [List.forall_mem_cons] at same
    rw [List.mapM_cons, List.mapM_cons, same.1, ih same.2]

theorem exists_of_bind_eq_ok {x : Except ε α} {f : α → Except ε β} {result : β}
    (done : (x >>= f) = .ok result) : ∃ part, x = .ok part ∧ f part = .ok result := by
  cases x with
  | error cause => cases done
  | ok part => exact ⟨part, rfl, done⟩

/-- Two steps have a result if the first one has, and the second one for that of the first. -/
theorem exists_bind_eq_ok {x : Except ε α} {f : α → Except ε β} (first : ∃ part, x = .ok part)
    (second : ∀ part, x = .ok part → ∃ result, f part = .ok result) :
    ∃ result, (x >>= f) = .ok result := by
  obtain ⟨part, rfl⟩ := first
  exact second part rfl

/-- A pass has results if each of its inputs has one. -/
theorem exists_mapM {f : α → Except ε β} {xs : List α} (each : ∀ x ∈ xs, ∃ y, f x = .ok y) :
    ∃ ys, xs.mapM f = .ok ys := by
  have never : FailsWith (fun _ => False) (xs.mapM f) := .mapM fun x member => by
    obtain ⟨y, own⟩ := each x member
    rw [own]
    exact .ok y
  cases done : xs.mapM f with
  | ok ys => exact ⟨ys, rfl⟩
  | error cause => exact (never cause done).elim

/-- Each result of a pass is that of one of its inputs. -/
theorem exists_of_mem_mapM {f : α → Except ε β} {xs : List α} {ys : List β}
    (done : xs.mapM f = .ok ys) {y : β} (member : y ∈ ys) : ∃ x ∈ xs, f x = .ok y := by
  induction xs generalizing ys with
  | nil =>
    cases done
    cases member
  | cons x xs ih =>
    rw [List.mapM_cons] at done
    obtain ⟨first, own, done⟩ := exists_of_bind_eq_ok done
    obtain ⟨others, later, done⟩ := exists_of_bind_eq_ok done
    cases done
    rcases List.mem_cons.mp member with rfl | member
    · exact ⟨x, List.mem_cons_self, own⟩
    · obtain ⟨x', inner, found⟩ := ih later member
      exact ⟨x', List.mem_cons_of_mem _ inner, found⟩

theorem exists_of_mem_of_mapM {f : α → Except ε β} {xs : List α} {ys : List β}
    (done : xs.mapM f = .ok ys) {x : α} (member : x ∈ xs) : ∃ y, f x = .ok y := by
  induction xs generalizing ys with
  | nil => cases member
  | cons first xs ih =>
    rw [List.mapM_cons] at done
    obtain ⟨own, found, done⟩ := exists_of_bind_eq_ok done
    obtain ⟨others, later, done⟩ := exists_of_bind_eq_ok done
    rcases List.mem_cons.mp member with rfl | member
    · exact ⟨own, found⟩
    · exact ih later member

/-- The result of each input is one of the results. -/
theorem mem_of_mapM {f : α → Except ε β} {xs : List α} {ys : List β}
    (done : xs.mapM f = .ok ys) {x : α} (member : x ∈ xs) {y : β} (own : f x = .ok y) : y ∈ ys := by
  induction xs generalizing ys with
  | nil => cases member
  | cons first xs ih =>
    rw [List.mapM_cons] at done
    obtain ⟨result, found, done⟩ := exists_of_bind_eq_ok done
    obtain ⟨others, later, done⟩ := exists_of_bind_eq_ok done
    cases done
    rcases List.mem_cons.mp member with rfl | member
    · rw [own] at found
      cases found
      exact List.mem_cons_self
    · exact List.mem_cons_of_mem _ (ih later member)

/-- From results that tell their inputs, the inputs are found again. -/
theorem map_of_mapM {f : α → Except ε β} {g : β → γ} {h : α → γ}
    (tells : ∀ x y, f x = .ok y → g y = h x) {xs : List α} {ys : List β}
    (done : xs.mapM f = .ok ys) : ys.map g = xs.map h := by
  induction xs generalizing ys with
  | nil =>
    cases done
    rfl
  | cons x xs ih =>
    rw [List.mapM_cons] at done
    obtain ⟨y, own, done⟩ := exists_of_bind_eq_ok done
    obtain ⟨others, later, done⟩ := exists_of_bind_eq_ok done
    cases done
    rw [List.map_cons, List.map_cons, tells x y own, ih later]

/-- Two passes whose results are related input by input. -/
theorem mapM_eq_map {f : α → Except ε β} {g : α → Except ε γ} {h : β → γ}
    (related : ∀ x y z, f x = .ok y → g x = .ok z → z = h y) {xs : List α} {ys : List β}
    {zs : List γ} (done : xs.mapM f = .ok ys) (done' : xs.mapM g = .ok zs) : zs = ys.map h := by
  induction xs generalizing ys zs with
  | nil =>
    cases done
    cases done'
    rfl
  | cons x xs ih =>
    rw [List.mapM_cons] at done done'
    obtain ⟨y, own, done⟩ := exists_of_bind_eq_ok done
    obtain ⟨others, later, done⟩ := exists_of_bind_eq_ok done
    obtain ⟨z, own', done'⟩ := exists_of_bind_eq_ok done'
    obtain ⟨others', later', done'⟩ := exists_of_bind_eq_ok done'
    cases done
    cases done'
    rw [List.map_cons, related x y z own own', ih later later']

/-! ## Two passes in one -/

/-- The results of a first pass may be followed up all together or one by one. -/
theorem bind_mapM_flatten (f : α → Option (List β)) (g : β → Option γ) (xs : List α) :
    ((xs.mapM f).bind fun found => found.flatten.mapM g) =
      (xs.mapM fun x => (f x).bind fun found => found.mapM g).map List.flatten := by
  induction xs with
  | nil => rfl
  | cons x xs ih =>
    rw [List.mapM_cons, List.mapM_cons]
    cases first : f x with
    | none => rfl
    | some found =>
      cases others : xs.mapM f with
      | none =>
        rw [others] at ih
        cases follow : found.mapM g with
        | none => simp [follow]
        | some own =>
          have later : (xs.mapM fun x => (f x).bind fun found => found.mapM g) = none :=
            Option.map_eq_none_iff.mp ih.symm
          simp [follow, later]
      | some rest =>
        rw [others] at ih
        cases follow : found.mapM g with
        | none => simp [follow]
        | some own =>
          simp only [Option.bind_some] at ih
          simp [follow, ih, Option.bind_map, Function.comp_def]

end Swatch.Outcome
