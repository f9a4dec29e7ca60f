import Swatch.Proofs.Color.Alphas

/-!
# Texts of calls

The text of a call tells its fields, since no field has a comma in it (`callText_inj`). So a call
that is written for the color of a written call has the same text exactly if its fields are the
same, and if an alpha below one was not written as `1`, which would be left out the next time
(`exists_reread`).
-/

namespace Swatch.Color

open Text Binary64

/-! ## Fields -/

section Fields

variable {stop : Char} {front front' back back' : List Char}

/-- Two texts of which the first parts have no stop are cut at the same place. -/
theorem append_stop_inj (free : stop ∉ front) (free' : stop ∉ front')
    (same : front ++ stop :: back = front' ++ stop :: back') : front = front' ∧ back = back' := by
  have ahead {x y r s : List Char} (free : stop ∉ y) (parts : ∃ more, y = x ++ more ∧
      stop :: r = more ++ stop :: s) : x = y ∧ r = s := by
    obtain ⟨more, rfl, rest⟩ := parts
    cases more with
    | nil => exact ⟨(List.append_nil x).symm, (List.cons.inj rest).2⟩
    | cons c more =>
      rw [← (List.cons.inj rest).1] at free
      exact absurd (List.mem_append_right x List.mem_cons_self) free
  rcases List.append_eq_append_iff.mp same with parts | parts
  · exact ahead free' parts
  · obtain ⟨texts, rests⟩ := ahead free parts
    exact ⟨texts.symm, rests.symm⟩

/-- Fields without commas are told by the text that they are joined to. -/
theorem intercalate_inj {fields fields' : List (List Char)} (nonempty : fields ≠ [])
    (nonempty' : fields' ≠ [])
    (bare : ∀ field ∈ fields, ',' ∉ field) (bare' : ∀ field ∈ fields', ',' ∉ field)
    (same : [',', ' '].intercalate fields = [',', ' '].intercalate fields') : fields = fields' := by
  have comma {first second : List Char} {rest : List (List Char)} :
      [',', ' '].intercalate (first :: second :: rest) =
        first ++ ',' :: ' ' :: [',', ' '].intercalate (second :: rest) := by
    rw [List.intercalate_cons_cons, List.append_assoc]
    rfl
  induction fields generalizing fields' with
  | nil => exact absurd rfl nonempty
  | cons first rest ih =>
    obtain ⟨first', rest', rfl⟩ := List.exists_cons_of_ne_nil nonempty'
    rw [List.forall_mem_cons] at bare bare'
    cases rest with
    | nil =>
      cases rest' with
      | nil =>
        rw [List.intercalate_singleton, List.intercalate_singleton] at same
        rw [same]
      | cons second' rest' =>
        rw [comma, List.intercalate_singleton] at same
        rw [same] at bare
        simp at bare
    | cons second rest =>
      cases rest' with
      | nil =>
        rw [comma, List.intercalate_singleton] at same
        rw [← same] at bare'
        simp at bare'
      | cons second' rest' =>
        rw [comma, comma] at same
        obtain ⟨own, others⟩ := append_stop_inj bare.1 bare'.1 same
        rw [own, ih (List.cons_ne_nil _ _) (List.cons_ne_nil _ _) bare.2 bare'.2
          (List.cons.inj others).2]

theorem not_comma_of_digit {cs : List Char} (digits : cs.all isAsciiDigit = true) : ',' ∉ cs :=
  fun member => absurd (List.all_eq_true.mp digits _ member) (by decide)

theorem bare_decimal (n : Int) : ',' ∉ decimal n := by
  have digits := not_comma_of_digit (toDigits_all n.natAbs)
  rw [decimal, List.mem_append, not_or]
  refine ⟨?_, digits⟩
  split <;> simp

theorem bare_percentText (n : Int) : ',' ∉ percentText n := by
  rw [percentText, List.mem_append, not_or]
  exact ⟨bare_decimal n, by decide⟩

theorem bare_alphaText {alpha : Binary64} (unsigned : Unsigned alpha) : ',' ∉ alphaText alpha := by
  obtain ⟨units, rfl, -⟩ := unsigned
  have whole := not_comma_of_digit (toDigits_all (tenThousandths units / 10 ^ 4))
  have places : ',' ∉ significant (paddedDigits 4 (tenThousandths units % 10 ^ 4)) := by
    have all := not_comma_of_digit (paddedDigits_all 4 (tenThousandths units % 10 ^ 4))
    obtain ⟨count, padded⟩ := significant_append (paddedDigits 4 (tenThousandths units % 10 ^ 4))
    rw [padded, List.mem_append, not_or] at all
    exact all.1
  rw [alphaText_eq, placesText, List.mem_append, not_or]
  refine ⟨whole, ?_⟩
  generalize significant (paddedDigits 4 (tenThousandths units % 10 ^ 4)) = digits at places
  cases digits with
  | nil => exact List.not_mem_nil
  | cons c digits =>
    have pointed : Css.pointed (c :: digits) = '.' :: c :: digits := rfl
    rw [pointed, List.mem_cons, not_or]
    exact ⟨by decide, places⟩

end Fields

/-! ## Calls -/

section Calls

variable {plain transparent : String} {fields fields' : List (List Char)} {alpha again : Binary64}

/-- An alpha below one is not written as one. -/
def KeepsAlpha (alpha : Binary64) : Prop :=
  alpha.lt 1 = true → alphaText alpha ≠ ['1']

/-- What a call is written with besides its name. -/
def callFields (fields : List (List Char)) (alpha : Binary64) : List (List Char) :=
  if alpha.lt 1 then fields ++ [alphaText alpha] else fields

/-- The fields of a call are told by its text. -/
theorem callFields_inj (stopless : '(' ∉ plain.toList) (stopless' : '(' ∉ transparent.toList)
    (filled : fields ≠ []) (filled' : fields' ≠ []) (bare : ∀ field ∈ fields, ',' ∉ field)
    (bare' : ∀ field ∈ fields', ',' ∉ field) (unsigned : Unsigned alpha)
    (unsigned' : Unsigned again)
    (same : callText plain transparent fields alpha = callText plain transparent fields' again) :
    callFields fields alpha = callFields fields' again := by
  have name {alpha : Binary64} :
      '(' ∉ (if alpha.lt 1 then transparent else plain).toList := by
    split
    · exact stopless'
    · exact stopless
  have nonempty {fields : List (List Char)} {alpha : Binary64} (filled : fields ≠ []) :
      callFields fields alpha ≠ [] := by
    unfold callFields
    split
    · exact List.append_ne_nil_of_left_ne_nil filled _
    · exact filled
  have commaless {fields : List (List Char)} {alpha : Binary64} (unsigned : Unsigned alpha)
      (bare : ∀ field ∈ fields, ',' ∉ field) : ∀ field ∈ callFields fields alpha, ',' ∉ field := by
    unfold callFields
    split
    · exact List.forall_mem_append.mpr
        ⟨bare, List.forall_mem_singleton.mpr (bare_alphaText unsigned)⟩
    · exact bare
  have texts := String.ofList_injective same
  rw [List.append_assoc, List.append_assoc, List.cons_append, List.cons_append] at texts
  obtain ⟨-, bodies⟩ := append_stop_inj name name texts
  exact intercalate_inj (nonempty filled) (nonempty filled') (commaless unsigned bare)
    (commaless unsigned' bare') (List.append_cancel_right bodies)

/-- A written call is read from the arguments that it was written for, and the color that is read is
written with the same text exactly if it has the same fields and the alpha is kept. -/
theorem exists_reread (rule : Rule) (plain transparent : String)
    (called : ascii.calls plain.toList rule)
    (called' : ascii.calls transparent.toList rule) (stopless : '(' ∉ plain.toList)
    (stopless' : '(' ∉ transparent.toList) {first second third : List Char} {x y z : Argument}
    (own : WrittenArgument first x) (own' : WrittenArgument second y)
    (own'' : WrittenArgument third z)
    (bare : ∀ field ∈ [first, second, third], ',' ∉ field) (unsigned : Unsigned alpha) :
    ∃ arguments again, readAlpha arguments = .ok again ∧
      (∀ {color : Color}, rule.color x y z arguments = .ok color →
        parse (callText plain transparent [first, second, third] alpha) = .ok color) ∧
      ∀ {first' second' third' : List Char},
        (∀ field ∈ [first', second', third'], ',' ∉ field) →
        (callText plain transparent [first', second', third'] again =
            callText plain transparent [first, second, third] alpha ↔
          [first', second', third'] = [first, second, third] ∧ KeepsAlpha alpha) := by
  by_cases kept : KeepsAlpha alpha
  · obtain ⟨value, again, numeral, read, same⟩ := exists_rereadAlpha unsigned kept
    refine ⟨_, again, read x y z, fun computed =>
      parse_callText rule called called' own own' own'' numeral computed, fun {f g h} bare' => ?_⟩
    rw [same plain transparent]
    constructor
    · intro texts
      have joined :=
        callFields_inj stopless stopless' (by simp) (by simp) bare' bare unsigned unsigned
        texts
      refine ⟨?_, kept⟩
      unfold callFields at joined
      split at joined
      · exact List.append_cancel_right joined
      · exact joined
    · rintro ⟨fields, -⟩
      rw [fields]
  · -- The alpha is written as one, so the next time it is left out.
    unfold KeepsAlpha at kept
    rw [Classical.not_imp, not_not] at kept
    obtain ⟨below, one⟩ := kept
    have clamped : clamp 0 1 (ofNat 1) = 1 := clamp_ofNat (n := 1) le_rfl (by decide)
    have numeral : WrittenNumeral (alphaText alpha) (ofNat 1) :=
      one ▸ written_whole (n := 1) (by decide)
    refine ⟨_, 1, ?_, fun computed =>
      parse_callText rule called called' own own' own'' (fun _ => numeral) computed,
      fun {f g h} bare' => ?_⟩
    · rw [if_pos below]
      have read (value : Binary64) : readAlpha [x, y, z, ⟨value, none⟩] = .ok (clamp 0 1 value) :=
        rfl
      rw [read, clamped]
    · have unsigned' : Unsigned 1 := clamped ▸ unsigned_clamp _
      refine iff_of_false (fun texts => ?_) fun both => both.2 below one
      have joined := callFields_inj stopless stopless' (by simp) (by simp) bare' bare unsigned'
        unsigned texts
      unfold callFields at joined
      rw [if_pos below, units_one.not_lt_self] at joined
      exact absurd (congrArg List.length joined) (by simp)

end Calls

end Swatch.Color
