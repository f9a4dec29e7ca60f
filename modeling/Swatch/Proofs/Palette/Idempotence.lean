import Swatch.Proofs.Color.ExactNames
import Swatch.Proofs.Color.SettledHues
import Swatch.Proofs.Extraction.Formats

/-!
# Formats that are applied twice

What a format wrote is a color literal, so it can be brought into the format once more. It stays as
it is exactly if the color is steady in that format (`format_again_iff`): whole channels are, whole
hues and percentages are away from the extremes, and alphas are that do not come to the next byte or
to one by rounding.
-/

namespace Swatch

open Binary64

namespace Color

variable {color : Color} {format : ColorFormat} {literal text : String}

/-- What the format writes of the color survives a second reading. -/
def Steady (color : Color) : ColorFormat → Prop
  | .hex => True
  | .hexa => ∀ n : Nat, roundHalfUp (color.alpha * 255) = .ok (n : Int) → byteOf (hundredths n) = n
  | .rgb => KeepsAlpha color.alpha
  | .percent => KeepsAlpha color.alpha
  | .hsl => KeepsAlpha color.alpha ∧ ∀ polar, color.hsl = .ok polar → polar.SteadyHsl
  | .hwb => KeepsAlpha color.alpha ∧ ∀ polar, color.hwb = .ok polar → polar.SteadyHwb
  | .keyword => ∀ name, color.keyword = .ok name → name ≠ "aqua" ∧ name ≠ "fuchsia"

/-- The one result that there is has the property. -/
theorem forall_ok_iff {α : Type} {view : Except Fault α} {result : α} (own : view = .ok result)
    {P : α → Prop} : (∀ other, view = .ok other → P other) ↔ P result := by
  rw [own]
  exact ⟨fun all => all result rfl, fun holds other same => Except.ok.inj same ▸ holds⟩

theorem settled_iff_steady (read : parse literal = .ok color)
    (written : color.write format = .ok text) :
    Settled format text ↔ color.Steady format := by
  obtain ⟨rgb, own, eight⟩ := (gamut_of_parse read).rgb
  have unsigned := unsigned_of_parse read
  cases format with
  | hex => exact iff_of_true (settled_hex own eight written) trivial
  | hexa =>
    obtain ⟨n, rounded, nonneg, le⟩ := alpha_of_ranged (ranged_of_parse read)
    obtain ⟨n, rfl⟩ := Int.eq_ofNat_of_zero_le nonneg
    rw [settled_hexa_iff own eight (by omega) rounded written, Steady, rounded]
    refine ⟨fun kept m same => ?_, fun all => all n rfl⟩
    rw [← Int.ofNat.inj (Except.ok.inj same)]
    exact kept
  | rgb => exact settled_rgb_iff own eight unsigned written
  | percent => exact settled_percentages_iff own eight unsigned written
  | hsl =>
    obtain ⟨polar, view, -⟩ := Outcome.exists_of_bind_eq_ok written
    exact (settled_hsl_iff read view written).trans (and_congr_right' (forall_ok_iff view).symm)
  | hwb =>
    obtain ⟨polar, view, -⟩ := Outcome.exists_of_bind_eq_ok written
    exact (settled_hwb_iff read view written).trans (and_congr_right' (forall_ok_iff view).symm)
  | keyword =>
    have only := forall_ok_iff (P := fun name => name ≠ "aqua" ∧ name ≠ "fuchsia") written
    exact (settled_keyword_iff own eight written).trans only.symm

end Color

namespace Palette

variable {options : Options} {format : ColorFormat} {literal text : String}

/-- A text that stays as it is in the format that is asked for is one that is settled in it. -/
theorem format_self_iff (known : options.format? = some format) :
    Palette.format options text = .ok text ↔ Color.Settled format text := by
  constructor
  · intro formatted
    rcases format_cases formatted with ⟨unformatted, -⟩ | ⟨color, written, own, read, computed⟩
    · rw [known] at unformatted
      cases unformatted
    · rw [known] at own
      cases own
      exact ⟨color, read, computed⟩
  · rintro ⟨color, read, computed⟩
    unfold Palette.format
    rw [known, read]
    dsimp only
    rw [computed]
    rfl

/-- A literal that was brought into a format stays as it is when that is done again, exactly if its
color is steady in the format. -/
theorem format_again_iff (known : options.format? = some format) {color : Color}
    (read : Color.parse literal = .ok color)
    (formatted : Palette.format options literal = .ok text) :
    Palette.format options text = .ok text ↔ color.Steady format := by
  rw [format_self_iff known]
  rcases format_cases formatted with ⟨unformatted, -⟩ | ⟨color', format', own, read', written⟩
  · rw [known] at unformatted
    cases unformatted
  · rw [known] at own
    rw [read] at read'
    cases own
    cases read'
    exact Color.settled_iff_steady read written

/-- A purple, the darkest red and black as they are written with a hue. -/
private theorem format_hues : ∀ pair ∈ [("#663399", "hsl(270, 50%, 40%)"),
      ("#010000", "hsl(0, 100%, 0%)"), ("hsl(0, 100%, 0%)", "hsl(0, 0%, 0%)")],
    (Palette.format { colorFormat := .string "hslString" } pair.1).toOption = some pair.2 := by
  decide +kernel

/-- A hue with enough of saturation and lightness stays. -/
theorem format_again_purple :
    ∃ color, Color.parse "#663399" = .ok color ∧
      Palette.format { colorFormat := .string "hslString" } "#663399" = .ok "hsl(270, 50%, 40%)" ∧
      (Palette.format { colorFormat := .string "hslString" } "hsl(270, 50%, 40%)" =
        .ok "hsl(270, 50%, 40%)" ↔ color.Steady .hsl) := by
  have formatted : Palette.format { colorFormat := .string "hslString" } "#663399" =
      .ok "hsl(270, 50%, 40%)" := Outcome.eq_ok_of_toOption (format_hues (_, _) (by simp))
  have known : Options.format? { colorFormat := .string "hslString" } = some .hsl := by decide
  rcases format_cases formatted with ⟨unformatted, -⟩ | ⟨color, -, -, read, -⟩
  · rw [known] at unformatted
    cases unformatted
  · exact ⟨color, read, formatted, format_again_iff known read formatted⟩

/-- The darkest red has a hue and a saturation that are lost when its text is read. -/
theorem not_format_again_darkest_red :
    ¬∀ (options : Options) (literal text : String), options.format?.isSome = true →
      Palette.format options literal = .ok text → Palette.format options text = .ok text := by
  intro again
  have formatted : Palette.format { colorFormat := .string "hslString" } "#010000" =
      .ok "hsl(0, 100%, 0%)" := Outcome.eq_ok_of_toOption (format_hues (_, _) (by simp))
  have lost : Palette.format { colorFormat := .string "hslString" } "hsl(0, 100%, 0%)" =
      .ok "hsl(0, 0%, 0%)" := Outcome.eq_ok_of_toOption (format_hues (_, _) (by simp))
  have same := (again _ _ _ (by decide) formatted).symm.trans lost
  exact absurd (Except.ok.inj same) (by decide)

end Palette

end Swatch
