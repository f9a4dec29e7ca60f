import Swatch.Proofs.Color.Settled

/-!
# Exact names

A color is written as the name of its whole channels, or else as the nearest name. The name stands
for exactly the color if and only if the channels are those of some name (`hasExactName_iff`): what
is compared are packed channels, and eight bits are enough room for each of them
(`EightBit.packed_inj`). A name is left as it is when it is written again, unless it is a second
spelling, and of those only two are ever the nearest name (`settled_keyword_iff`).
-/

namespace Swatch.Color

open Text Binary64

variable {color : Color} {rgb : Rgb} {name : String}

/-! ## Packed channels -/

/-- The packed channels are digits of a number with base 256. -/
theorem packed_nat {red green blue : Nat} (second : green ≤ 255) (third : blue ≤ 255) :
    Rgb.packed ⟨red, green, blue⟩ = (red * 0x10000 + green * 0x100 + blue : Nat) := by
  have outer := Nat.two_pow_add_eq_or_of_lt (i := 16) (b := green * 0x100) (by omega) red
  have inner := Nat.two_pow_add_eq_or_of_lt (i := 8) (b := blue) (by omega) (red * 0x100 + green)
  have packed : Rgb.packed ⟨red, green, blue⟩ =
      ((red * 0x10000 ||| green * 0x100 ||| blue : Nat) : Int) := rfl
  rw [packed, Nat.mul_comm red, ← show 2 ^ 16 = 0x10000 by decide, ← outer,
    show 2 ^ 16 * red + green * 0x100 = 2 ^ 8 * (red * 0x100 + green) by omega, ← inner]

theorem EightBit.packed_inj {rgb' : Rgb} (eight : EightBit rgb) (eight' : EightBit rgb')
    (same : rgb.packed = rgb'.packed) : rgb = rgb' := by
  obtain ⟨red, green, blue, rfl, -, second, third⟩ := eight.exists_nat
  obtain ⟨red', green', blue', rfl, -, second', third'⟩ := eight'.exists_nat
  rw [packed_nat second third, packed_nat second' third'] at same
  rw [Rgb.mk.injEq]
  omega

/-! ## Names of the table -/

/-- The channels of some name. -/
def Named (rgb : Rgb) : Prop :=
  ∃ name, (name, rgb) ∈ ColorName.table

theorem eightBit_of_entry (entry : (name, rgb) ∈ ColorName.table) : EightBit rgb := by
  have own := List.all_eq_true.mp table_channels _ entry
  simp only [List.all_cons, List.all_nil, Bool.and_true, Bool.and_eq_true, decide_eq_true_eq] at own
  exact ⟨own.1, own.2.1, own.2.2⟩

/-- A name is read as the color of its channels. -/
theorem parse_name (entry : (name, rgb) ∈ ColorName.table) : parse name = .ok (ofRgb rgb) := by
  have named : name ∈ ColorName.names := List.mem_map_of_mem (f := Prod.fst) entry
  have spelled := anyScript_spells_of_ascii (.inr named) (ascii_spells_name named)
  rw [parse_eq_ok_iff, trim_solid (solid_of_isWord (isWord_of_name (.inr named) spelled))]
  exact .name entry spelled

/-- The channels of a name have a preferred name, which is the name itself unless that is a second
spelling. -/
theorem nameOf?_of_entry (entry : (name, rgb) ∈ ColorName.table) :
    ∃ preferred, ColorName.nameOf? rgb = some preferred ∧
      (name ∉ ColorName.secondSpellings → preferred = name) := by
  have known : ColorName.table.all fun entry => (ColorName.nameOf? entry.2).any fun preferred =>
      ColorName.secondSpellings.contains entry.1 || preferred == entry.1 := by
    decide +kernel
  have own := List.all_eq_true.mp known _ entry
  cases found : ColorName.nameOf? rgb with
  | none =>
    rw [found] at own
    cases own
  | some preferred =>
    rw [found, Option.any_some, Bool.or_eq_true, List.contains_iff_mem, beq_iff_eq] at own
    exact ⟨preferred, rfl, own.resolve_left⟩

/-- What is found is a name of exactly these channels, and no second spelling. -/
theorem entry_of_nameOf? (eight : EightBit rgb) (found : ColorName.nameOf? rgb = some name) :
    (name, rgb) ∈ ColorName.table ∧ name ∉ ColorName.secondSpellings := by
  obtain ⟨red, green, blue, rfl, first, second, third⟩ := eight.exists_nat
  have clamped : Rgb.clamped ⟨red, green, blue⟩ = ⟨red, green, blue⟩ := by
    unfold Rgb.clamped Rgb.clampChannel
    rw [Rgb.mk.injEq]
    dsimp only
    omega
  obtain ⟨⟨own, channels⟩, place, rfl⟩ := Option.map_eq_some_iff.mp found
  have passes := List.find?_some place
  have member := List.mem_of_find?_eq_some place
  rw [clamped, Bool.and_eq_true, decide_eq_true_eq] at passes
  rw [← passes.1]
  exact ⟨member, by simpa using passes.2⟩

/-! ## The nearest name -/

/-- Only two second spellings are the nearest name of anything: of all others the first spelling
comes first. -/
theorem nearest_spelling (rgb : Rgb) (second : ColorName.nearest rgb ∈ ColorName.secondSpellings) :
    ColorName.nearest rgb = "aqua" ∨ ColorName.nearest rgb = "fuchsia" := by
  have known : ColorName.table.all fun entry => entry.1 ∈ ColorName.secondSpellings →
      entry.1 = "aqua" ∨ entry.1 = "fuchsia" ∨
        (ColorName.table.find? fun other => other.2 == entry.2) ≠ some entry := by
    decide
  obtain ⟨name, channels, own, best⟩ := ColorName.exists_nearest rgb
  have member := best.mem
  obtain ⟨front, back, whole, less, -⟩ := best
  have first : ColorName.table.find? (fun other => other.2 == channels) =
      some (name, channels) := by
    rw [whole, List.find?_append, List.find?_eq_none.mpr, Option.none_or, List.find?_cons_of_pos]
    · exact beq_self_eq_true _
    · intro other member same
      rw [beq_iff_eq] at same
      exact absurd (same ▸ less other member) (lt_irrefl _)
  have spelled := of_decide_eq_true (List.all_eq_true.mp known _ member)
  rw [own] at second ⊢
  exact (spelled second).imp_right fun rest => rest.resolve_right (not_not_intro first)

/-! ## The name that a color is written as -/

theorem keyword_eq (own : color.rgb = .ok rgb) :
    color.keyword = .ok ((ColorName.nameOf? rgb).getD (ColorName.nearest rgb)) := by
  rw [keyword, own]
  rfl

/-- The channels of a name are those of the name that they are written as. -/
theorem entry_of_named (named : Named rgb) :
    ((ColorName.nameOf? rgb).getD (ColorName.nearest rgb), rgb) ∈ ColorName.table := by
  obtain ⟨name, entry⟩ := named
  obtain ⟨preferred, found, -⟩ := nameOf?_of_entry entry
  rw [found]
  exact (entry_of_nameOf? (eightBit_of_entry entry) found).1

/-- The name of a color stands for exactly the color if and only if its whole channels are those of
some name. -/
theorem hasExactName_iff (own : color.rgb = .ok rgb) (eight : EightBit rgb) :
    ∃ answer, color.hasExactName = .ok answer ∧ (answer = true ↔ Named rgb) := by
  obtain ⟨rgb', entry⟩ := exists_entry (keyword_mem (keyword_eq own))
  have eight' := eightBit_of_entry entry
  have found : (ofRgb rgb').number = .ok rgb'.packed := by
    rw [number, eight'.rgb_ofRgb]
    rfl
  have answer : color.number = .ok rgb.packed := by
    rw [number, own]
    rfl
  refine ⟨rgb'.packed == rgb.packed, ?_, ?_⟩
  · rw [hasExactName, keyword_eq own, Outcome.ok_bind, parse?, parse_name entry]
    dsimp only [Except.toOption]
    rw [found, answer]
    rfl
  · rw [beq_iff_eq]
    constructor
    · intro same
      rw [← eight'.packed_inj eight same]
      exact ⟨_, entry⟩
    · intro named
      have same := ColorName.lookup_table_iff.mpr (entry_of_named named)
      rw [ColorName.lookup_table_iff.mpr entry] at same
      rw [Option.some.inj same]

/-- A name that was written is left as it is exactly if it is none of the two second spellings that
are ever the nearest name. -/
theorem settled_keyword_iff (own : color.rgb = .ok rgb) (eight : EightBit rgb)
    (written : color.keyword = .ok name) :
    Settled .keyword name ↔ name ≠ "aqua" ∧ name ≠ "fuchsia" := by
  obtain ⟨rgb', entry⟩ := exists_entry (keyword_mem written)
  have eight' := eightBit_of_entry entry
  obtain ⟨preferred, found, spelled⟩ := nameOf?_of_entry entry
  have first := (entry_of_nameOf? eight' found).2
  have again : (ofRgb rgb').keyword = .ok preferred := by
    rw [keyword_eq (eight'.rgb_ofRgb 1), found]
    rfl
  have settled : Settled .keyword name ↔ name ∉ ColorName.secondSpellings := by
    rw [settled_iff_of_parse (parse_name entry), write, again, Except.ok.injEq]
    exact ⟨fun same => same ▸ first, spelled⟩
  rw [settled]
  constructor
  · intro kept
    refine ⟨?_, ?_⟩ <;>
      · rintro rfl
        exact kept (by decide)
  · rintro ⟨other, other'⟩ second
    rw [keyword_eq own] at written
    cases preference : ColorName.nameOf? rgb with
    | some own =>
      rw [preference] at written
      cases written
      exact (entry_of_nameOf? eight preference).2 second
    | none =>
      rw [preference] at written
      cases written
      exact (nearest_spelling rgb second).elim other other'

end Swatch.Color
