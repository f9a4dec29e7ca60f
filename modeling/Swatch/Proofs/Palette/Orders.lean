import Mathlib.Data.List.FinRange
import Swatch.Proofs.Palette.Distinct

/-!
# The orders of a palette

A list is stably arranged (`StablyArranged`) if every place of it is used once, no element stands
ahead of one that has to come before it, and of two elements neither of which has to come before the
other the earlier one stays ahead. Both orders arrange the colors so: by count, the more frequent
colors first (`arrange_byFrequency`), and by hue (`byHue_arranges`). First occurrences may be picked
before the sort or after it (`unique_mergeSort`), as copies of one color have one key.
-/

namespace Swatch.Palette

open Binary64 Outcome

/-! ## Stable arrangements -/

section Stable

variable {α : Type} {before : α → α → Bool}

/-- The elements in an order, each at a place of its own. Of two elements neither of which has to
come before the other, the earlier one is ahead. -/
def StablyArranged (precedes : α → α → Prop) (elements arranged : List α) : Prop :=
  ∃ places : List (Fin elements.length),
    places.Perm (List.finRange elements.length) ∧ arranged = places.map elements.get ∧
      places.Pairwise fun i j => precedes (elements.get i) (elements.get j) ∨
        (¬precedes (elements.get j) (elements.get i) ∧ i < j)

/-- Of two elements of a sorted list the first one has to come before the second, or both may and
they stood in this order already. -/
theorem pairwise_mergeSort_of_pairwise {ahead : α → α → Prop}
    (trans : ∀ a b c, before a b = true → before b c = true → before a c = true)
    (total : ∀ a b, (before a b || before b a) = true) {elements : List α}
    (ordered : elements.Pairwise ahead) :
    (elements.mergeSort before).Pairwise fun a b =>
      before b a = false ∨ (before a b = true ∧ ahead a b) := by
  induction elements with
  | nil => simp
  | cons first rest ih =>
    obtain ⟨behind, ordered⟩ := List.pairwise_cons.mp ordered
    have sorted := ih ordered
    have inner {b : α} (q : α → Bool) (member : b ∈ (rest.mergeSort before).filter q) : b ∈ rest :=
      (List.mergeSort_perm rest before).mem_iff.mp (List.mem_filter.mp member).1
    have strict {a b : α} (later : before b a = false) : before a b = true := by
      simpa [later] using total a b
    rw [mergeSort_cons_eq trans total, List.pairwise_append, List.pairwise_cons]
    refine ⟨sorted.filter _, ⟨?_, sorted.filter _⟩, ?_⟩
    · intro b member
      exact .inr ⟨(List.mem_filter.mp member).2, behind b (inner _ member)⟩
    · intro a member b member'
      have less : before first a = false := by simpa using (List.mem_filter.mp member).2
      left
      rcases List.mem_cons.mp member' with rfl | member'
      · exact less
      · rw [Bool.eq_false_iff]
        intro back
        have more := trans _ _ _ (List.mem_filter.mp member').2 back
        rw [less] at more
        cases more

/-- A merge sort is a stable arrangement. -/
theorem stablyArranged_mergeSort
    (trans : ∀ a b c, before a b = true → before b c = true → before a c = true)
    (total : ∀ a b, (before a b || before b a) = true) (elements : List α) :
    StablyArranged (fun a b => before b a = false) elements (elements.mergeSort before) := by
  let key (i j : Fin elements.length) : Bool := before (elements.get i) (elements.get j)
  refine ⟨(List.finRange elements.length).mergeSort key, List.mergeSort_perm _ _, ?_, ?_⟩
  · rw [List.map_mergeSort (s := before) fun _ _ _ _ => rfl, List.map_get_finRange]
  · have keyTrans (i j k : Fin elements.length) (first : key i j = true) (second : key j k = true) :
        key i k = true :=
      trans _ _ _ first second
    have sorted := pairwise_mergeSort_of_pairwise keyTrans (fun i j => total _ _)
      (List.pairwise_lt_finRange elements.length)
    refine sorted.imp fun {i j} placed => placed.imp_right ?_
    rintro ⟨le, less⟩
    exact ⟨Bool.not_eq_false _ ▸ le, less⟩

theorem StablyArranged.mono {precedes precedes' : α → α → Prop} {elements arranged : List α}
    (stable : StablyArranged precedes elements arranged)
    (same : ∀ a ∈ elements, ∀ b ∈ elements, precedes a b ↔ precedes' a b) :
    StablyArranged precedes' elements arranged := by
  obtain ⟨places, all, rfl, ordered⟩ := stable
  refine ⟨places, all, rfl, ordered.imp fun {i j} placed => ?_⟩
  have swap := same _ (elements.get_mem j) _ (elements.get_mem i)
  rwa [same _ (elements.get_mem i) _ (elements.get_mem j), swap] at placed

end Stable

/-! ## First occurrences -/

theorem unique_append_of_disjoint {front back : List String}
    (apart : ∀ color ∈ back, color ∉ front) :
    unique (front ++ back) = unique front ++ unique back := by
  induction front with
  | nil => rfl
  | cons color front ih =>
    have other : ∀ b ∈ unique back, (b != color) = true := by
      intro b member
      refine bne_iff_ne.mpr ?_
      rintro rfl
      exact apart b (mem_unique.mp member) List.mem_cons_self
    rw [List.cons_append, unique, unique, ih fun b member inner =>
      apart b member (List.mem_cons_of_mem _ inner), List.filter_append,
        List.filter_eq_self.mpr other,
      List.cons_append]

/-- The first occurrences of a sorted list are the sorted first occurrences. -/
theorem unique_mergeSort {before : String → String → Bool}
    (trans : ∀ a b c, before a b = true → before b c = true → before a c = true)
    (total : ∀ a b, (before a b || before b a) = true) (colors : List String) :
    unique (colors.mergeSort before) = (unique colors).mergeSort before := by
  induction colors with
  | nil => simp [unique]
  | cons first rest ih =>
    have reflexive : before first first = true := by simpa using total first first
    have apart : ∀ color ∈ first :: (rest.mergeSort before).filter (before first ·),
        color ∉ (rest.mergeSort before).filter (!before first ·) := by
      intro color member ahead
      have ahead := (List.mem_filter.mp ahead).2
      rcases List.mem_cons.mp member with rfl | member
      · simp [reflexive] at ahead
      · simp [(List.mem_filter.mp member).2] at ahead
    have sorted : ((unique rest).filter (· != first)).mergeSort before =
        (unique (rest.mergeSort before)).filter (· != first) := by
      rw [ih, filter_mergeSort trans total]
    -- No copy of the first color is ahead of it.
    have ahead : ((unique (rest.mergeSort before)).filter (· != first)).filter (!before first ·) =
        (unique (rest.mergeSort before)).filter (!before first ·) := by
      rw [List.filter_filter]
      refine List.filter_congr fun color _ => ?_
      by_cases same : color = first
      · simp [same, reflexive]
      · simp [same]
    rw [mergeSort_cons_eq trans total, unique_append_of_disjoint apart, unique, unique,
      unique_filter,
      unique_filter, mergeSort_cons_eq trans total, sorted, ahead, List.filter_filter,
      List.filter_filter]
    simp only [Bool.and_comm]

/-- First occurrences stand in the order in which they occur. -/
theorem unique_pairwise (colors : List String) :
    (unique colors).Pairwise fun a b => colors.idxOf a < colors.idxOf b := by
  induction colors with
  | nil => exact .nil
  | cons first rest ih =>
    rw [unique, List.pairwise_cons]
    have other {color : String} (member : color ∈ (unique rest).filter (· != first)) :
        first ≠ color :=
      (bne_iff_ne.mp (List.mem_filter.mp member).2).symm
    constructor
    · intro color member
      rw [List.idxOf_cons_self, List.idxOf_cons, beq_false_of_ne (other member)]
      exact Nat.succ_pos _
    · refine (ih.filter _).imp_of_mem fun {a b} member member' less => ?_
      rw [List.idxOf_cons, List.idxOf_cons, beq_false_of_ne (other member),
        beq_false_of_ne (other member')]
      exact Nat.succ_lt_succ less

/-! ## Sorts by a key -/

section Keys

variable {α : Type} (key : α → Int)

/-- The elements by ascending key, elements of one key in the order given. -/
def sortBy (elements : List α) : List α :=
  elements.mergeSort fun a b => key a ≤ key b

theorem key_trans (a b c : α) (first : decide (key a ≤ key b) = true)
    (second : decide (key b ≤ key c) = true) : decide (key a ≤ key c) = true := by
  rw [decide_eq_true_eq] at first second ⊢
  exact first.trans second

theorem key_total (a b : α) : (decide (key a ≤ key b) || decide (key b ≤ key a)) = true := by
  rw [Bool.or_eq_true, decide_eq_true_eq, decide_eq_true_eq]
  exact le_total _ _

theorem sortBy_perm (elements : List α) : (sortBy key elements).Perm elements :=
  List.mergeSort_perm _ _

theorem sortBy_sorted (elements : List α) :
    (sortBy key elements).Pairwise fun a b => key a ≤ key b := by
  have sorted := List.pairwise_mergeSort (key_trans key) (key_total key) elements
  exact sorted.imp fun le => of_decide_eq_true le

theorem stablyArranged_sortBy (elements : List α) :
    StablyArranged (fun a b => key a < key b) elements (sortBy key elements) := by
  refine (stablyArranged_mergeSort (key_trans key) (key_total key) elements).mono ?_
  intro a _ b _
  rw [decide_eq_false_iff_not, not_le]

theorem unique_sortBy (key : String → Int) (colors : List String) :
    unique (sortBy key colors) = sortBy key (unique colors) :=
  unique_mergeSort (key_trans key) (key_total key) colors

/-- Colors of one key are sorted by their first occurrence. -/
theorem sortBy_unique_pairwise (key : String → Int) (colors : List String) :
    (sortBy key (unique colors)).Pairwise fun a b =>
      key a < key b ∨ (key a = key b ∧ colors.idxOf a < colors.idxOf b) := by
  have sorted :=
    pairwise_mergeSort_of_pairwise (key_trans key) (key_total key) (unique_pairwise colors)
  refine sorted.imp fun {a b} placed => ?_
  rw [decide_eq_false_iff_not, not_le, decide_eq_true_eq] at placed
  rcases placed with less | ⟨le, first⟩
  · exact .inl less
  · rcases le.lt_or_eq with less | same
    · exact .inl less
    · exact .inr ⟨same, first⟩

end Keys

/-! ## By count -/

section Frequency

variable {options : Options} {literals formatted : List String}

/-- The first text is more frequent than the second one. -/
def MoreFrequent (texts : List String) (a b : String) : Prop :=
  texts.count b < texts.count a

/-- The place of a text by its count, the most frequent text first. -/
def countKey (texts : List String) (text : String) : Int :=
  -(texts.count text : Int)

theorem countKey_lt {texts : List String} {a b : String} :
    countKey texts a < countKey texts b ↔ MoreFrequent texts a b := by
  unfold countKey MoreFrequent
  omega

/-- The order by count is a stable sort by the counts. -/
theorem byFrequency_eq (colors : List String) :
    byFrequency colors = sortBy (countKey colors) colors := by
  have texts : (colors.map fun color => (colors.count color, color)).map (·.2) = colors := by
    rw [List.map_map]
    exact List.map_id colors
  unfold byFrequency
  dsimp only
  rw [List.map_mergeSort
    (s := fun a b => decide (countKey colors a ≤ countKey colors b)), texts, sortBy]
  intro entry member entry' member'
  obtain ⟨color, -, rfl⟩ := List.mem_map.mp member
  obtain ⟨color', -, rfl⟩ := List.mem_map.mp member'
  rw [decide_eq_decide]
  dsimp only
  unfold countKey
  omega

/-- The list given out by count. With repeats it is the formatted colors, stably arranged. Without
repeats it is each of them once, by descending count and then by first occurrence, which is to
arrange the first occurrences stably. -/
theorem arrange_byFrequency (order : options.sort = .string "frequency")
    (written : literals.mapM (format options) = .ok formatted) :
    ∃ found, arrange options literals = .ok found ∧
      (options.allColors = true →
        found.Perm formatted ∧ StablyArranged (MoreFrequent formatted) formatted found) ∧
      (options.allColors = false →
        found.Nodup ∧ (∀ text, text ∈ found ↔ text ∈ formatted) ∧
          (found.Pairwise fun a b => MoreFrequent formatted a b ∨
            (formatted.count a = formatted.count b ∧ formatted.idxOf a < formatted.idxOf b)) ∧
          StablyArranged (MoreFrequent formatted) (unique formatted) found) := by
  have byCount : options.order = .byFrequency := by
    rw [Options.order, order]
    rfl
  have done : arrange options literals =
      .ok (if options.allColors then byFrequency formatted
        else unique (byFrequency formatted)) := by
    unfold arrange
    rw [written, byCount]
    rfl
  have stable (elements : List String) : StablyArranged (MoreFrequent formatted) elements
      (sortBy (countKey formatted) elements) :=
    (stablyArranged_sortBy _ _).mono fun _ _ _ _ => countKey_lt
  refine ⟨_, done, fun all => ?_, fun once => ?_⟩
  · rw [if_pos all]
    exact ⟨byFrequency_perm formatted, byFrequency_eq formatted ▸ stable formatted⟩
  · rw [once, if_neg Bool.false_ne_true]
    have picked : unique (byFrequency formatted) =
        sortBy (countKey formatted) (unique formatted) := by
      rw [byFrequency_eq, unique_sortBy]
    refine ⟨nodup_unique _, fun text => ?_, ?_, picked ▸ stable (unique formatted)⟩
    · rw [mem_unique, (byFrequency_perm formatted).mem_iff]
    · rw [picked]
      refine (sortBy_unique_pairwise _ formatted).imp fun {a b} placed => ?_
      rw [countKey_lt] at placed
      refine placed.imp_right fun ⟨same, first⟩ => ⟨?_, first⟩
      unfold countKey at same
      omega

/-- Two colors as frequent as each other, one inside the other, and a third one. -/
theorem arrange_byFrequency_nested :
    ∃ found,
      arrange { sort := .string "frequency" } ["red", "blue", "lime", "blue", "red"] = .ok found ∧
      found.Nodup ∧ (∀ text, text ∈ found ↔ text ∈ ["red", "blue", "lime", "blue", "red"]) ∧
      StablyArranged (MoreFrequent ["red", "blue", "lime", "blue", "red"]) ["red", "blue", "lime"]
        found := by
  obtain ⟨found, done, -, once⟩ := @arrange_byFrequency { sort := .string "frequency" }
    ["red", "blue", "lime", "blue", "red"] ["red", "blue", "lime", "blue", "red"] rfl rfl
  obtain ⟨distinct, members, -, stable⟩ := once rfl
  exact ⟨found, done, distinct, members, stable⟩

end Frequency

/-! ## By hue -/

section Hue

variable {colors ordered others : List String} {a b c : String}

/-- Both literals have a hue, and that of the first one is not greater. -/
def HueLe (a b : String) : Prop :=
  ∃ angle angle', hue a = .ok angle ∧ hue b = .ok angle' ∧ angle.le angle' = true

/-- Both literals have a hue, and that of the first one is less. -/
def HueLt (a b : String) : Prop :=
  ∃ angle angle', hue a = .ok angle ∧ hue b = .ok angle' ∧ angle.lt angle' = true

/-- Of the colors no two different texts have the same hue. -/
def HuesDiffer (colors : List String) : Prop :=
  ∀ a ∈ colors, ∀ b ∈ colors, a ≠ b →
    ∀ angle angle', hue a = .ok angle → hue b = .ok angle' → angle.same angle' = false

theorem hueLe_iff (own : ∃ angle, hue a = .ok angle) (own' : ∃ angle, hue b = .ok angle) :
    HueLe a b ↔ hueUnits a ≤ hueUnits b := by
  obtain ⟨angle, own⟩ := own
  obtain ⟨angle', own'⟩ := own'
  rw [← (units_of_hue own).le_iff (units_of_hue own')]
  constructor
  · rintro ⟨first, second, same, same', le⟩
    rw [own] at same
    rw [own'] at same'
    cases same
    cases same'
    exact le
  · intro le
    exact ⟨angle, angle', own, own', le⟩

theorem hueLt_iff (own : ∃ angle, hue a = .ok angle) (own' : ∃ angle, hue b = .ok angle) :
    HueLt a b ↔ hueUnits a < hueUnits b := by
  obtain ⟨angle, own⟩ := own
  obtain ⟨angle', own'⟩ := own'
  rw [← (units_of_hue own).lt_iff (units_of_hue own')]
  constructor
  · rintro ⟨first, second, same, same', less⟩
    rw [own] at same
    rw [own'] at same'
    cases same
    cases same'
    exact less
  · intro less
    exact ⟨angle, angle', own, own', less⟩

theorem HueLe.trans (first : HueLe a b) (second : HueLe b c) : HueLe a c := by
  have own : ∃ angle, hue a = .ok angle := first.imp fun _ ⟨_, own, _⟩ => own
  have own' : ∃ angle, hue b = .ok angle := second.imp fun _ ⟨_, own, _⟩ => own
  have own'' : ∃ angle, hue c = .ok angle := by
    obtain ⟨-, angle, -, own, -⟩ := second
    exact ⟨angle, own⟩
  rw [hueLe_iff own own'] at first
  rw [hueLe_iff own' own''] at second
  rw [hueLe_iff own own'']
  exact first.trans second

/-- The colors are put in order by hue exactly if each has a hue. -/
theorem exists_byHue_iff :
    (∃ ordered, byHue colors = .ok ordered) ↔ ∀ color ∈ colors, ∃ angle, hue color = .ok angle := by
  unfold byHue
  constructor
  · rintro ⟨ordered, done⟩ color member
    obtain ⟨keyed, inner, -⟩ := exists_of_bind_eq_ok done
    obtain ⟨entry, own⟩ := exists_of_mem_of_mapM inner member
    obtain ⟨angle, own, -⟩ := exists_of_bind_eq_ok own
    exact ⟨angle, own⟩
  · intro each
    refine exists_bind_eq_ok (exists_mapM fun color member => ?_) fun _ _ => ⟨_, rfl⟩
    exact exists_bind_eq_ok (each color member) fun _ _ => ⟨_, rfl⟩

/-- The hue of a color that is read is a number. -/
theorem hue_ne_nan {literal : String} {color : Color} {exact : Color.Hsl}
    (read : Color.parse literal = .ok color) (own : color.hslExact = .ok exact) :
    exact.hue ≠ .nan := by
  have computed : hue literal = .ok exact.hue := by
    unfold hue
    rw [read]
    dsimp only
    rw [own]
    rfl
  obtain ⟨negative, size, finite, -⟩ := units_of_hue computed
  rw [finite]
  rintro ⟨⟩

/-- Where no two different colors have one hue, the order given does not matter. -/
theorem byHue_perm (done : byHue colors = .ok ordered) (perm : others.Perm colors)
    (differ : HuesDiffer colors) : byHue others = .ok ordered := by
  have each := exists_byHue_iff.mp ⟨ordered, done⟩
  obtain ⟨ordered', done'⟩ := exists_byHue_iff.mpr fun color member =>
    each color (perm.mem_iff.mp member)
  rw [done', byHue_eq done, byHue_eq done']
  refine congrArg Except.ok (List.Perm.eq_of_pairwise ?_ (sortBy_sorted hueUnits others)
    (sortBy_sorted hueUnits colors) ?_)
  · intro a b member member' le le'
    by_contra other
    have inner := perm.mem_iff.mp ((sortBy_perm hueUnits others).mem_iff.mp member)
    have inner' := (sortBy_perm hueUnits colors).mem_iff.mp member'
    obtain ⟨angle, own⟩ := each a inner
    obtain ⟨angle', own'⟩ := each b inner'
    have apart := differ a inner b inner' other angle angle' own own'
    rw [Bool.eq_false_iff, Ne, (units_of_hue own).same_iff (units_of_hue own')] at apart
    omega
  · exact ((sortBy_perm _ others).trans perm).trans (sortBy_perm _ colors).symm

/-- The order by hue. The hues are numbers and any two are comparable; the colors are stably
arranged by them, before first occurrences are picked or after it; and where no two different colors
have one hue, any list of the same colors is arranged the same. -/
theorem byHue_arranges :
    (∀ literal color exact, Color.parse literal = .ok color → color.hslExact = .ok exact →
      exact.hue ≠ .nan) ∧
    ∀ colors ordered, byHue colors = .ok ordered →
      (∀ a ∈ colors, ∀ b ∈ colors, HueLe a b ∨ HueLe b a) ∧
      (∀ a ∈ colors, ∀ b ∈ colors, ∀ c ∈ colors, HueLe a b → HueLe b c → HueLe a c) ∧
      ordered.Perm colors ∧ ordered.Pairwise HueLe ∧ StablyArranged HueLt colors ordered ∧
      byHue (unique colors) = .ok (unique ordered) ∧
      ∀ others, others.Perm colors → HuesDiffer colors → byHue others = .ok ordered := by
  refine ⟨fun _ _ _ => hue_ne_nan, fun colors ordered done => ?_⟩
  have each := exists_byHue_iff.mp ⟨ordered, done⟩
  have sorted : ordered = sortBy hueUnits colors := byHue_eq done
  have perm : ordered.Perm colors := sorted ▸ sortBy_perm hueUnits colors
  refine ⟨?_, fun a _ b _ c _ => HueLe.trans, perm, ?_, ?_, ?_, fun _ => byHue_perm done⟩
  · intro a member b member'
    rw [hueLe_iff (each a member) (each b member'), hueLe_iff (each b member') (each a member)]
    exact le_total _ _
  · have ascending := sortBy_sorted hueUnits colors
    rw [← sorted] at ascending
    refine ascending.imp_of_mem fun {a b} member member' le => ?_
    exact (hueLe_iff (each a (perm.mem_iff.mp member)) (each b (perm.mem_iff.mp member'))).mpr le
  · rw [sorted]
    refine (stablyArranged_sortBy hueUnits colors).mono fun a member b member' => ?_
    exact (hueLt_iff (each a member) (each b member')).symm
  · obtain ⟨picked, done'⟩ :=
      exists_byHue_iff.mpr fun color member => each color (mem_unique.mp member)
    have sorted' : picked = sortBy hueUnits (unique colors) := byHue_eq done'
    rw [done', sorted', sorted, unique_sortBy]

/-- A cyan, and then two spellings of one green and the first of them again. -/
theorem byHue_greens :
    ∃ ordered, byHue ["cyan", "#0f0", "lime", "#0f0"] = .ok ordered ∧ ordered.Pairwise HueLe ∧
      StablyArranged HueLt ["cyan", "#0f0", "lime", "#0f0"] ordered ∧
      byHue ["cyan", "#0f0", "lime"] = .ok (unique ordered) := by
  have hues : ∀ color ∈ ["cyan", "#0f0", "lime", "#0f0"], (hue color).toOption.isSome = true := by
    decide +kernel
  obtain ⟨ordered, done⟩ := exists_byHue_iff.mpr fun color member => by
    obtain ⟨angle, own⟩ := Option.isSome_iff_exists.mp (hues color member)
    exact ⟨angle, eq_ok_of_toOption own⟩
  obtain ⟨-, arranged⟩ := byHue_arranges
  obtain ⟨-, -, -, sorted, stable, picked, -⟩ := arranged _ _ done
  exact ⟨ordered, done, sorted, stable, picked⟩

end Hue

end Swatch.Palette
