import Swatch.Proofs.Extraction.Literals
import Swatch.Proofs.Palette.Filtering

/-!
# Palettes without repeats

An order moves colors about and neither adds nor drops one (`perm_of_inOrder`); then every color but
its first occurrence is left out. So a list without repeats holds each written form once, and it
holds the forms of the literals and no others (`arrange_distinct`): literals share an entry exactly
if they are written the same.
-/

namespace Swatch.Palette

open Outcome

variable {options : Options} {colors ordered found : List String} {color : String}

/-! ## First occurrences -/

theorem mem_unique : color ∈ unique colors ↔ color ∈ colors := by
  refine ⟨mem_of_mem_unique, fun member => ?_⟩
  induction colors with
  | nil => cases member
  | cons first rest ih =>
    rw [unique, List.mem_cons, List.mem_filter]
    by_cases same : color = first
    · exact .inl same
    · refine .inr ⟨ih ?_, bne_iff_ne.mpr same⟩
      exact (List.mem_cons.mp member).resolve_left same

theorem nodup_unique (colors : List String) : (unique colors).Nodup := by
  induction colors with
  | nil => exact List.nodup_nil
  | cons first rest ih =>
    rw [unique, List.nodup_cons]
    refine ⟨fun member => ?_, ih.filter _⟩
    have other := (List.mem_filter.mp member).2
    exact bne_iff_ne.mp other rfl

/-! ## Orders -/

theorem byFrequency_perm (colors : List String) : (byFrequency colors).Perm colors := by
  unfold byFrequency
  have sorted := List.mergeSort_perm (colors.map fun color => (colors.count color, color))
    fun a b => b.1 ≤ a.1
  have texts := sorted.map (·.2)
  rwa [List.map_map, show (fun entry : Nat × String => entry.2) ∘
    (fun color => (colors.count color, color)) = id from rfl, List.map_id] at texts

/-- In any order the colors are the same, each as often as before. -/
theorem perm_of_inOrder {order : Options.Order} (sorted : inOrder colors order = .ok ordered) :
    ordered.Perm colors := by
  cases order with
  | asFound =>
    cases sorted
    exact .refl _
  | byHue =>
    rw [byHue_eq sorted]
    exact List.mergeSort_perm _ _
  | byFrequency =>
    cases sorted
    exact byFrequency_perm colors

/-! ## The list given out -/

/-- The list holds the forms of the literals, and no others. -/
theorem mem_arrange {literals : List String} (done : arrange options literals = .ok found)
    {text : String} : text ∈ found ↔ ∃ literal ∈ literals, format options literal = .ok text := by
  refine ⟨exists_of_mem_arrange done, ?_⟩
  rintro ⟨literal, own, written⟩
  unfold arrange at done
  obtain ⟨formatted, inner, done⟩ := exists_of_bind_eq_ok done
  obtain ⟨ordered, sorted, done⟩ := exists_of_bind_eq_ok done
  cases done
  have placed : text ∈ ordered :=
    (perm_of_inOrder sorted).mem_iff.mpr (mem_of_mapM inner own written)
  split
  next => exact placed
  next => exact mem_unique.mpr placed

/-- A list without repeats holds each form of a literal once, and nothing else. -/
theorem arrange_distinct {literals : List String} (repeats : options.allColors = false)
    (done : arrange options literals = .ok found) :
    found.Nodup ∧
      ∀ text, text ∈ found ↔ ∃ literal ∈ literals, format options literal = .ok text := by
  refine ⟨?_, fun text => mem_arrange done⟩
  unfold arrange at done
  obtain ⟨formatted, -, done⟩ := exists_of_bind_eq_ok done
  obtain ⟨ordered, -, done⟩ := exists_of_bind_eq_ok done
  rw [repeats] at done
  cases done
  exact nodup_unique ordered

end Swatch.Palette
