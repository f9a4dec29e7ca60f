import Mathlib.Algebra.Order.Ring.Int
import Mathlib.Data.List.Induction
import Mathlib.Data.String.Basic
import Swatch.Color.Name

/-!
# Color names

The table of names ascends (`table_ascending`). The names are looked through in this order, and a
name takes the place of the best one so far only if it is nearer. So the best one is always the
first nearest one of those looked through (`FirstNearest.step`), and in the end that of the whole
table (`exists_firstNearest`): of the names that no other name is nearer than, the alphabetically
first one is found, and for the channels of a name the first name of exactly these channels
(`nearest_least_first`).
-/

namespace Swatch.ColorName

variable {rgb : Rgb} {entries : List (String × Rgb)} {entry : String × Rgb}

/-! ## The order of the table -/

/-- The names of the table are in alphabetical order, each of them once. -/
theorem table_ascending : table.Pairwise fun a b => a.1 < b.1 := by
  have ascending : names.IsChain (· < ·) := by
    decide +kernel
  exact List.pairwise_map.mp ascending.pairwise

/-- The channels of a name are found under it. -/
theorem lookup_table_iff {name : String} {rgb : Rgb} :
    table.lookup name = some rgb ↔ (name, rgb) ∈ table := by
  rw [List.lookup_eq_some_iff]
  constructor
  · rintro ⟨front, back, whole, -⟩
    rw [whole]
    exact List.mem_append_right _ List.mem_cons_self
  · intro member
    obtain ⟨front, back, whole⟩ := List.append_of_mem member
    refine ⟨front, back, whole, ?_⟩
    intro other before
    have ascending := table_ascending
    rw [whole] at ascending
    have smaller := (List.pairwise_append.mp ascending).2.2 other before _ List.mem_cons_self
    exact bne_iff_ne.mpr smaller.ne'

/-! ## The first nearest entry -/

/-- No entry is nearer to the channels than this one, and the entries in front of it are farther. -/
def FirstNearest (rgb : Rgb) (entries : List (String × Rgb)) (entry : String × Rgb) : Prop :=
  ∃ front back, entries = front ++ entry :: back ∧
    (∀ other ∈ front, rgb.distance entry.2 < rgb.distance other.2) ∧
      ∀ other ∈ back, rgb.distance entry.2 ≤ rgb.distance other.2

theorem FirstNearest.mem (first : FirstNearest rgb entries entry) : entry ∈ entries := by
  obtain ⟨front, back, rfl, -, -⟩ := first
  exact List.mem_append_right _ List.mem_cons_self

theorem FirstNearest.le (first : FirstNearest rgb entries entry) :
    ∀ other ∈ entries, rgb.distance entry.2 ≤ rgb.distance other.2 := by
  intro other member
  obtain ⟨front, back, rfl, farther, least⟩ := first
  rcases List.mem_append.mp member with before | behind
  · exact (farther other before).le
  · rcases List.mem_cons.mp behind with rfl | behind
    · exact le_rfl
    · exact least other behind

/-- A further entry takes the place of the first nearest one only if it is nearer. -/
theorem FirstNearest.step (first : FirstNearest rgb entries entry) (next : String × Rgb) :
    FirstNearest rgb (entries ++ [next])
      (if rgb.distance next.2 < rgb.distance entry.2 then next else entry) := by
  split
  next nearer =>
    refine ⟨entries, [], rfl, ?_, fun _ member => absurd member List.not_mem_nil⟩
    intro other member
    exact nearer.trans_le (first.le other member)
  next farther =>
    obtain ⟨front, back, rfl, before, behind⟩ := first
    refine ⟨front, back ++ [next], by rw [List.append_assoc, List.cons_append], before, ?_⟩
    intro other member
    rcases List.mem_append.mp member with member | last
    · exact behind other member
    · rw [List.mem_singleton.mp last]
      exact not_lt.mp farther

theorem nearestIn?_concat (rgb : Rgb) (entries : List (String × Rgb)) (next : String × Rgb) :
    nearestIn? rgb (entries ++ [next]) = some ((nearestIn? rgb entries).elim next fun found =>
      if rgb.distance next.2 < rgb.distance found.2 then next else found) := by
  rw [nearestIn?, List.foldl_append, List.foldl_cons, List.foldl_nil, ← nearestIn?]
  cases nearestIn? rgb entries with
  | none => rfl
  | some found =>
    dsimp only [Option.elim_some]
    split <;> rfl

/-- What is found in entries is the first nearest one of them. -/
theorem exists_firstNearest (rgb : Rgb) (nonempty : entries ≠ []) :
    ∃ entry, nearestIn? rgb entries = some entry ∧ FirstNearest rgb entries entry := by
  -- The entries looked through grow at their end, as the search goes on.
  induction entries using List.reverseRecOn with
  | nil => exact absurd rfl nonempty
  | append_singleton entries next ih =>
    rw [nearestIn?_concat]
    rcases eq_or_ne entries [] with rfl | before
    · exact ⟨next, rfl, [], [], rfl, by simp, by simp⟩
    · obtain ⟨entry, found, first⟩ := ih before
      rw [found]
      exact ⟨_, rfl, first.step next⟩

/-- The nearest name is that of the first nearest entry of the table. -/
theorem exists_nearest (rgb : Rgb) :
    ∃ name channels, nearest rgb = name ∧ FirstNearest rgb table (name, channels) := by
  obtain ⟨⟨name, channels⟩, found, first⟩ := @exists_firstNearest table rgb (by decide)
  refine ⟨name, channels, ?_, first⟩
  rw [nearest, found]
  rfl

theorem nearest_mem (rgb : Rgb) : nearest rgb ∈ names := by
  obtain ⟨name, channels, own, first⟩ := exists_nearest rgb
  rw [own]
  exact List.mem_map_of_mem (f := Prod.fst) first.mem

/-- Of the entries that are equally near the first one has the alphabetically first name. -/
theorem FirstNearest.name_le (first : FirstNearest rgb table entry) :
    ∀ other ∈ table, rgb.distance other.2 = rgb.distance entry.2 → entry.1 ≤ other.1 := by
  intro other member same
  obtain ⟨front, back, whole, farther, -⟩ := first
  have ascending := table_ascending
  rw [whole] at ascending member
  rcases List.mem_append.mp member with before | behind
  · exact absurd same (farther other before).ne'
  · rcases List.mem_cons.mp behind with rfl | behind
    · exact le_rfl
    · have later := (List.pairwise_cons.mp (List.pairwise_append.mp ascending).2.1).1
      exact (later other behind).le

/-! ## The nearest name -/

theorem distance_self (rgb : Rgb) : rgb.distance rgb = 0 := by
  simp [Rgb.distance]

/-- Different channels have a distance. -/
theorem eq_of_distance_le_zero {a b : Rgb} (least : a.distance b ≤ 0) : a = b := by
  have red := mul_self_nonneg (a.red - b.red)
  have green := mul_self_nonneg (a.green - b.green)
  have blue := mul_self_nonneg (a.blue - b.blue)
  dsimp only [Rgb.distance] at least
  have red' : a.red = b.red := sub_eq_zero.mp (mul_self_eq_zero.mp (by omega))
  have green' : a.green = b.green := sub_eq_zero.mp (mul_self_eq_zero.mp (by omega))
  have blue' : a.blue = b.blue := sub_eq_zero.mp (mul_self_eq_zero.mp (by omega))
  cases a
  cases b
  rw [Rgb.mk.injEq]
  exact ⟨red', green', blue'⟩

/-- What is nearest to the channels of an entry has these channels. -/
theorem FirstNearest.channels_eq (first : FirstNearest rgb entries entry) {name : String}
    (member : (name, rgb) ∈ entries) : entry.2 = rgb := by
  have least := first.le (name, rgb) member
  rw [distance_self] at least
  exact (eq_of_distance_le_zero least).symm

/-- The nearest name is one of the table, no name of the table is nearer, and of those that are
equally near it is the alphabetically first one. So the channels of a name have the alphabetically
first name of exactly these channels. -/
theorem nearest_least_first (rgb : Rgb) :
    (∃ channels, (nearest rgb, channels) ∈ table ∧
      ∀ name other, (name, other) ∈ table → rgb.distance channels ≤ rgb.distance other ∧
        (rgb.distance other = rgb.distance channels → nearest rgb ≤ name)) ∧
    nearest rgb ≠ "" ∧
    ∀ name, (name, rgb) ∈ table → (nearest rgb, rgb) ∈ table ∧ nearest rgb ≤ name := by
  obtain ⟨name, channels, own, first⟩ := exists_nearest rgb
  have nameless : "" ∉ names := by
    decide
  refine ⟨⟨channels, own ▸ first.mem, ?_⟩, fun empty => nameless (empty ▸ nearest_mem rgb), ?_⟩
  · intro other channels' member
    rw [own]
    exact ⟨first.le (other, channels') member, first.name_le (other, channels') member⟩
  · intro other member
    have exactly : channels = rgb := first.channels_eq member
    rw [exactly] at first
    rw [own]
    exact ⟨first.mem, first.name_le (other, rgb) member rfl⟩

/-- Channels far out of range, to which two names of one color are nearest; and the channels of
these names themselves. -/
theorem nearest_aqua :
    (∃ channels, (nearest ⟨-5, 300, 10 ^ 30⟩, channels) ∈ table ∧
      Rgb.distance ⟨-5, 300, 10 ^ 30⟩ ⟨0, 255, 255⟩ = Rgb.distance ⟨-5, 300, 10 ^ 30⟩ channels ∧
        nearest ⟨-5, 300, 10 ^ 30⟩ ≤ "cyan") ∧
    (nearest ⟨0, 255, 255⟩, ⟨0, 255, 255⟩) ∈ table ∧ nearest ⟨0, 255, 255⟩ ≤ "cyan" := by
  have cyan : ("cyan", ⟨0, 255, 255⟩) ∈ table := by
    decide
  have aqua : nearest ⟨-5, 300, 10 ^ 30⟩ = "aqua" := by
    decide +kernel
  have known : table.all fun entry => entry.1 = "aqua" → ⟨0, 255, 255⟩ = entry.2 := by
    decide
  obtain ⟨⟨channels, entry, least⟩, -, -⟩ := nearest_least_first ⟨-5, 300, 10 ^ 30⟩
  obtain ⟨-, -, exactly⟩ := nearest_least_first ⟨0, 255, 255⟩
  have tie : Rgb.distance ⟨-5, 300, 10 ^ 30⟩ ⟨0, 255, 255⟩ =
      Rgb.distance ⟨-5, 300, 10 ^ 30⟩ channels := by
    rw [aqua] at entry
    exact congrArg _ (of_decide_eq_true (List.all_eq_true.mp known _ entry) rfl)
  exact ⟨⟨channels, entry, tie, (least _ _ cyan).2 tie⟩, exactly _ cyan⟩

end Swatch.ColorName
