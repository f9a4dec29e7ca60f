import Swatch.Proofs.Color.Views
import Swatch.Proofs.Extraction.ByDeclaration

/-!
# Palettes of which some colors are left out

To leave colors out of a list and then to put it in order, or the other way round, comes to the
same: both orders are stable sorts (`filter_mergeSort`), the count of a color is that of its own
copies, and the first occurrence of a color stays the first one. So the list given out for some of
the literals is what is left of the list given out for all of them (`finish_filter`).
-/

namespace Swatch.Palette

open Binary64 Outcome

/-! ## Stable sorts -/

section Sorts

variable {α : Type} {before : α → α → Bool}

/-- A stable sort puts the first element behind all that have to be before it, and ahead of the
others. -/
theorem mergeSort_cons_eq
    (trans : ∀ a b c, before a b = true → before b c = true → before a c = true)
    (total : ∀ a b, (before a b || before b a) = true) (first : α) (rest : List α) :
    (first :: rest).mergeSort before =
      (rest.mergeSort before).filter (!before first ·) ++
        first :: (rest.mergeSort before).filter (before first) := by
  obtain ⟨front, back, whole, others, ahead⟩ := List.mergeSort_cons trans total first rest
  have sorted := List.pairwise_mergeSort trans total (first :: rest)
  rw [whole, List.pairwise_append, List.pairwise_cons] at sorted
  have behind : ∀ b ∈ back, before first b = true := sorted.2.1.1
  have ahead : ∀ b ∈ front, (!before first b) = true := ahead
  rw [whole, others, List.filter_append, List.filter_append, List.filter_eq_self.mpr ahead,
    List.filter_eq_self.mpr behind,
    List.filter_eq_nil_iff.mpr (fun b member => by simp [behind b member]),
    List.filter_eq_nil_iff.mpr (fun b member => by simpa using ahead b member),
    List.append_nil, List.nil_append]

/-- What is left of a sorted list is the sorted rest. -/
theorem filter_mergeSort
    (trans : ∀ a b c, before a b = true → before b c = true → before a c = true)
    (total : ∀ a b, (before a b || before b a) = true) (keeps : α → Bool) (elements : List α) :
    (elements.mergeSort before).filter keeps = (elements.filter keeps).mergeSort before := by
  induction elements with
  | nil => simp
  | cons first rest ih =>
    cases kept : keeps first with
    | true =>
      have commute (q : α → Bool) : ((rest.mergeSort before).filter q).filter keeps =
          ((rest.filter keeps).mergeSort before).filter q := by
        rw [← ih, List.filter_filter, List.filter_filter]
        simp only [Bool.and_comm]
      rw [mergeSort_cons_eq trans total, List.filter_append, List.filter_cons_of_pos kept,
        List.filter_cons_of_pos kept, commute, commute, mergeSort_cons_eq trans total]
    | false =>
      obtain ⟨front, back, whole, others, -⟩ := List.mergeSort_cons trans total first rest
      have dropped : ¬keeps first = true := by simp [kept]
      rw [whole, List.filter_append, List.filter_cons_of_neg dropped,
        List.filter_cons_of_neg dropped, ← List.filter_append, ← others, ih]

end Sorts

/-! ## First occurrences -/

theorem unique_filter (keeps : String → Bool) (colors : List String) :
    unique (colors.filter keeps) = (unique colors).filter keeps := by
  induction colors with
  | nil => rfl
  | cons color colors ih =>
    rw [unique, List.filter_cons]
    split
    next kept =>
      rw [unique, ih, List.filter_cons_of_pos kept, List.filter_filter, List.filter_filter]
      simp only [Bool.and_comm]
    next dropped =>
      rw [ih, List.filter_cons_of_neg dropped, List.filter_filter]
      refine List.filter_congr fun other _ => ?_
      by_cases same : other = color
      · simp [same, dropped]
      · simp [same]

/-! ## Orders -/

/-- The count of a color that is kept does not depend on the colors that are left out. -/
theorem byFrequency_filter (keeps : String → Bool) (colors : List String) :
    byFrequency (colors.filter keeps) = (byFrequency colors).filter keeps := by
  have counted :
    ((colors.filter keeps).map fun color => ((colors.filter keeps).count color, color)) =
      (colors.map fun color => (colors.count color, color)).filter fun entry => keeps entry.2 := by
    rw [List.filter_map]
    refine List.map_congr_left fun color member => ?_
    rw [List.count_filter (List.mem_filter.mp member).2]
  unfold byFrequency
  dsimp only
  rw [counted, ← filter_mergeSort (by simp; omega) (by simp; omega), List.filter_map]
  rfl

/-- The hue of a color literal in units, where there is one. -/
def hueUnits (literal : String) : Int :=
  match hue literal with
  | .ok (.finite negative units) => signed negative units
  | _ => 0

theorem hueUnits_eq {literal : String} {angle : Binary64} {u : Int}
    (own : hue literal = .ok angle) (units : Units angle u) : hueUnits literal = u := by
  obtain ⟨negative, size, rfl, same⟩ := units
  rw [hueUnits, own]
  exact same

/-- The hue of a color that has one is finite. -/
theorem units_of_hue {literal : String} {angle : Binary64} (own : hue literal = .ok angle) :
    Units angle (hueUnits literal) := by
  have finite : ∃ u, Units angle u := by
    unfold hue at own
    split at own
    next => cases own
    next color read =>
      obtain ⟨fault, result⟩ := Color.hslExact_of_ranged (Color.ranged_of_parse read)
      cases white : color.nextToWhite with
      | true =>
        rw [fault white] at own
        cases own
      | false =>
        obtain ⟨exact, computed, finite⟩ := result white
        rw [computed] at own
        obtain ⟨u, units, -⟩ := finite.hue
        exact ⟨u, Except.ok.inj own ▸ units⟩
  obtain ⟨u, units⟩ := finite
  rwa [hueUnits_eq own units]

/-- The order by hue is a stable sort by the units of the hue. -/
theorem byHue_eq {colors ordered : List String} (done : byHue colors = .ok ordered) :
    ordered = colors.mergeSort fun a b => hueUnits a ≤ hueUnits b := by
  unfold byHue at done
  obtain ⟨keyed, inner, done⟩ := exists_of_bind_eq_ok done
  have keys : ∀ entry ∈ keyed, Units entry.1 (hueUnits entry.2) := by
    intro entry member
    obtain ⟨color, -, computed⟩ := exists_of_mem_mapM inner member
    obtain ⟨angle, own, computed⟩ := exists_of_bind_eq_ok computed
    rw [← Except.ok.inj computed]
    exact units_of_hue own
  have texts : keyed.map (·.2) = colors := by
    have told := map_of_mapM (g := Prod.snd) (h := id) (fun color entry computed => by
      obtain ⟨angle, -, computed⟩ := exists_of_bind_eq_ok computed
      rw [← Except.ok.inj computed]
      rfl) inner
    rwa [List.map_id] at told
  rw [← Except.ok.inj done, ← texts, List.map_mergeSort]
  intro a first b second
  have less := (keys b second).lt_iff (keys a first)
  rw [Bool.eq_iff_iff, Bool.not_eq_true', ← Bool.not_eq_true, less, decide_eq_true_eq, not_lt]

theorem byHue_filter (keeps : String → Bool) {colors ordered found : List String}
    (done : byHue colors = .ok ordered) (done' : byHue (colors.filter keeps) = .ok found) :
    found = ordered.filter keeps := by
  rw [byHue_eq done, byHue_eq done', filter_mergeSort]
  · intro a b c
    simp only [decide_eq_true_eq]
    omega
  · intro a b
    simp only [Bool.or_eq_true, decide_eq_true_eq]
    omega

/-! ## The list given out -/

/-- What is given out for some of the colors is what is left of the list given out for all. -/
theorem finish_filter {options : Options} (keeps : String → Bool) {colors all found : List String}
    (done : finish options colors = .ok all)
    (done' : finish options (colors.filter keeps) = .ok found) : found = all.filter keeps := by
  unfold finish at done done'
  obtain ⟨ordered, sorted, done⟩ := exists_of_bind_eq_ok done
  obtain ⟨ordered', sorted', done'⟩ := exists_of_bind_eq_ok done'
  have same : ordered' = ordered.filter keeps := by
    cases order : options.order with
    | asFound =>
      rw [order] at sorted sorted'
      rw [← Except.ok.inj sorted, ← Except.ok.inj sorted']
    | byHue =>
      rw [order] at sorted sorted'
      exact byHue_filter keeps sorted sorted'
    | byFrequency =>
      rw [order] at sorted sorted'
      rw [← Except.ok.inj sorted, ← Except.ok.inj sorted', byFrequency_filter]
  rw [← Except.ok.inj done, ← Except.ok.inj done', same]
  split
  next => rfl
  next => exact unique_filter keeps ordered

end Swatch.Palette
