import Swatch.Proofs.Color.Spelling
import Swatch.Proofs.Color.Channels
import Swatch.Proofs.Color.Name
import Swatch.Proofs.Text.Trimming

/-!
# The grammar of color literals

A text denotes a color in three forms (`Denotes`): as a name, as digits after a number sign, and as
a call of a function with three or four arguments, computed by a rule. Which characters spell a
name, a function and a digit is the matter of an `Alphabet`. The texts that are read are exactly
those of the alphabet `anyScript` (`parse?_iff_denotes`). It takes in all of `ascii`, and it has
more than that only by the digits of other scripts and by two letters whose case forms are ASCII
letters (`Ordinary`).
-/

namespace Swatch.Color

open Text

/-! ## Rules -/

/-- A rule that computes a color from arguments. -/
inductive Rule where
  | rgb
  | hsl
  | hwb
  deriving DecidableEq, Repr

namespace Rule

/-- The name of the functions of a rule, less an `a` at its end. -/
def name : Rule → List Char
  | rgb => ['r', 'g', 'b']
  | hsl => ['h', 's', 'l']
  | hwb => ['h', 'w', 'b']

/-- The rule of a function: that of `hwb`, unless the name spells one of the others out. -/
def ofName (name : List Char) : Rule :=
  if ['r', 'g', 'b'].isPrefixOf name then rgb
  else if ['h', 's', 'l'].isPrefixOf name then hsl
  else hwb

/-- The color of three arguments, with all arguments that are given. -/
def color : Rule → Argument → Argument → Argument → List Argument → Except LiteralError Color
  | rgb => ofRgbArguments
  | hsl => ofHslArguments
  | hwb => ofHwbArguments

/-- The units of three arguments are admissible. -/
def Admits : Rule → Argument → Argument → Argument → Prop
  | rgb, x, y, z => (∀ argument ∈ [x, y, z], argument.measure = none) ∨
      ∀ argument ∈ [x, y, z], argument.measure = some .percent
  | _, x, y, z => x.measure ≠ some .percent ∧ y.measure ≠ some .degree ∧ z.measure ≠ some .degree

end Rule

theorem exists_alpha_iff (x y z : Argument) {more : List Argument} (few : more.length ≤ 1) :
    (∃ alpha, readAlpha (x :: y :: z :: more) = .ok alpha) ↔
      ∀ argument ∈ more, argument.measure ≠ some .degree := by
  cases more with
  | nil => simp [readAlpha]
  | cons argument more =>
    have empty : more = [] := by simpa using few
    subst empty
    have angle : argument.measure = some .degree ↔
        ¬∃ alpha, readAlpha [x, y, z, argument] = .ok alpha := by
      unfold readAlpha
      simp only [List.drop_succ_cons, List.drop_zero]
      split
      next same => simp [same]
      next same => simp [same]
      next same => simp [same]
    simp [angle]

theorem exists_hue_iff {argument : Argument} :
    (∃ hue, readHue argument = .ok hue) ↔ argument.measure ≠ some .percent := by
  unfold readHue
  split
  next same => simp [same]
  next other => simp [other]

theorem exists_percentage_iff {argument : Argument} :
    (∃ portion, readPercentage argument = .ok portion) ↔ argument.measure ≠ some .degree := by
  unfold readPercentage
  split
  next same => simp [same]
  next other => simp [other]

theorem exists_rgb_iff {x y z : Argument} {arguments : List Argument} :
    (∃ color, ofRgbArguments x y z arguments = .ok color) ↔
      Rule.rgb.Admits x y z ∧ ∃ alpha, readAlpha arguments = .ok alpha := by
  have numbers : [x, y, z].all (·.measure == none) = true ↔
      ∀ argument ∈ [x, y, z], argument.measure = none := by
    rw [List.all_eq_true]
    simp only [beq_iff_eq]
  have percents : [x, y, z].all (·.measure == some .percent) = true ↔
      ∀ argument ∈ [x, y, z], argument.measure = some .percent := by
    rw [List.all_eq_true]
    simp only [beq_iff_eq]
  unfold ofRgbArguments Rule.Admits
  dsimp only
  rw [← numbers, ← percents]
  constructor
  · rintro ⟨color, read⟩
    split at read
    next plain =>
      obtain ⟨scale, -, read⟩ := Outcome.exists_of_bind_eq_ok read
      obtain ⟨alpha, opacity, -⟩ := Outcome.exists_of_bind_eq_ok read
      exact ⟨.inl plain, alpha, opacity⟩
    split at read
    next percent =>
      obtain ⟨scale, -, read⟩ := Outcome.exists_of_bind_eq_ok read
      obtain ⟨alpha, opacity, -⟩ := Outcome.exists_of_bind_eq_ok read
      exact ⟨.inr percent, alpha, opacity⟩
    next => cases read
  · rintro ⟨units, opacity⟩
    split
    next =>
      exact Outcome.exists_bind_eq_ok ⟨_, rfl⟩ fun _ _ =>
        Outcome.exists_bind_eq_ok opacity fun _ _ => ⟨_, rfl⟩
    next other =>
      rw [if_pos (units.resolve_left other)]
      exact Outcome.exists_bind_eq_ok ⟨_, rfl⟩ fun _ _ =>
        Outcome.exists_bind_eq_ok opacity fun _ _ => ⟨_, rfl⟩

/-- A rule computes a color exactly from arguments whose units are admissible, with an alpha that is
no angle. -/
theorem Rule.exists_color_iff (rule : Rule) (x y z : Argument) {more : List Argument}
    (few : more.length ≤ 1) :
    (∃ color, rule.color x y z (x :: y :: z :: more) = .ok color) ↔
      rule.Admits x y z ∧ ∀ argument ∈ more, argument.measure ≠ some .degree := by
  rw [← exists_alpha_iff x y z few]
  cases rule with
  | rgb => exact exists_rgb_iff
  | hsl =>
    unfold Admits
    dsimp only
    rw [← exists_hue_iff, ← exists_percentage_iff, ← exists_percentage_iff]
    constructor
    · rintro ⟨color, read⟩
      obtain ⟨hue, first, read⟩ := Outcome.exists_of_bind_eq_ok read
      obtain ⟨saturation, second, read⟩ := Outcome.exists_of_bind_eq_ok read
      obtain ⟨lightness, third, read⟩ := Outcome.exists_of_bind_eq_ok read
      obtain ⟨alpha, opacity, -⟩ := Outcome.exists_of_bind_eq_ok read
      exact ⟨⟨⟨hue, first⟩, ⟨saturation, second⟩, lightness, third⟩, alpha, opacity⟩
    · rintro ⟨⟨hue, saturation, lightness⟩, opacity⟩
      exact Outcome.exists_bind_eq_ok hue fun _ _ => Outcome.exists_bind_eq_ok saturation fun _ _ =>
        Outcome.exists_bind_eq_ok lightness fun _ _ =>
          Outcome.exists_bind_eq_ok opacity fun _ _ => ⟨_, rfl⟩
  | hwb =>
    unfold Admits
    dsimp only
    rw [← exists_hue_iff, ← exists_percentage_iff, ← exists_percentage_iff]
    constructor
    · rintro ⟨color, read⟩
      obtain ⟨hue, first, read⟩ := Outcome.exists_of_bind_eq_ok read
      obtain ⟨whiteness, second, read⟩ := Outcome.exists_of_bind_eq_ok read
      obtain ⟨blackness, third, read⟩ := Outcome.exists_of_bind_eq_ok read
      obtain ⟨alpha, opacity, -⟩ := Outcome.exists_of_bind_eq_ok read
      exact ⟨⟨⟨hue, first⟩, ⟨whiteness, second⟩, blackness, third⟩, alpha, opacity⟩
    · rintro ⟨⟨hue, whiteness, blackness⟩, opacity⟩
      refine Outcome.exists_bind_eq_ok hue fun turn _ => Outcome.exists_bind_eq_ok whiteness
        fun _ _ => Outcome.exists_bind_eq_ok blackness fun _ _ =>
          Outcome.exists_bind_eq_ok opacity fun _ _ => ?_
      split
      next => exact ⟨_, rfl⟩
      next =>
        generalize channelsAt (turn / 360) (1 / 2) 1 = channels
        exact ⟨_, rfl⟩

/-! ## Calls -/

/-- A call is computed from three or four arguments by the rule of its name. -/
theorem ofCall_eq_ok_iff {call : Call} {color : Color} :
    ofCall call = .ok color ↔ ∃ x y z more,
      ArgumentsText isDecimalDigit call.body (x :: y :: z :: more) ∧
      more.length ≤ 1 ∧ (Rule.ofName call.name).color x y z (x :: y :: z :: more) = .ok color := by
  have ruled (x y z : Argument) (arguments : List Argument) :
      (Rule.ofName call.name).color x y z arguments =
        if ['r', 'g', 'b'].isPrefixOf call.name then ofRgbArguments x y z arguments
        else if ['h', 's', 'l'].isPrefixOf call.name then ofHslArguments x y z arguments
        else ofHwbArguments x y z arguments := by
    unfold Rule.ofName
    split
    next => rfl
    split
    next => rfl
    next => rfl
  simp only [ruled, ← readArguments_eq_ok_iff]
  unfold ofCall
  constructor
  · intro read
    obtain ⟨arguments, spelled, read⟩ := Outcome.exists_of_bind_eq_ok read
    rw [spelled]
    match arguments, read with
    | [x, y, z], read => exact ⟨x, y, z, [], rfl, by decide, read⟩
    | [x, y, z, a], read => exact ⟨x, y, z, [a], rfl, by simp, read⟩
    | x :: y :: z :: a :: b :: more, read => cases read
    | [], read => cases read
    | [x], read => cases read
    | [x, y], read => cases read
  · rintro ⟨x, y, z, more, spelled, few, computed⟩
    rw [← computed, spelled, Outcome.ok_bind]
    rcases more with _ | ⟨a, _ | ⟨b, more⟩⟩
    · rfl
    · rfl
    · simp at few

/-- A function name holds no opening parenthesis. -/
theorem functionName_letters {name : List Char}
    (named : functionNames.contains (name.map functionLetter)) :
    name.all (· != '(') ∧ name ≠ [] := by
  have known : functionNames.all fun name => name.all (· != '(') && !name.isEmpty := by decide
  have own := List.all_eq_true.mp known _ (List.contains_iff_mem.mp named)
  rw [Bool.and_eq_true] at own
  refine ⟨List.all_eq_true.mpr fun c member => ?_, ?_⟩
  · rw [bne_iff_ne]
    rintro rfl
    have letter := List.all_eq_true.mp own.1 _ (List.mem_map_of_mem (f := functionLetter) member)
    exact absurd letter (by decide)
  · rintro rfl
    exact absurd own.2 (by decide)

/-- No function name starts with a number sign. -/
theorem functionName_head {name : List Char}
    (named : functionNames.contains (name.map functionLetter)) (rest : List Char) :
    (name ++ rest).head? ≠ some '#' := by
  obtain ⟨-, nonempty⟩ := functionName_letters named
  cases name with
  | nil => exact (nonempty rfl).elim
  | cons c name =>
    intro hash
    have same : c = '#' := by simpa using hash
    have known : functionNames.all fun name => name.head? != Option.some '#' := by decide
    have own := List.all_eq_true.mp known _ (List.contains_iff_mem.mp named)
    have letter : functionLetter '#' = '#' := by decide
    simp [same, letter] at own

theorem readCall?_eq_some_iff {cs : List Char} {call : Call} :
    readCall? cs = some call ↔ ∃ name, cs = name ++ '(' :: (call.body ++ [')']) ∧
      functionNames.contains (name.map functionLetter) = true ∧
      call.name = name.map asciiLower := by
  constructor
  · intro read
    unfold readCall? at read
    dsimp only at read
    split at read
    next inner opened =>
      split at read
      next named =>
        cases read
        rw [Bool.and_eq_true, beq_iff_eq] at named
        obtain ⟨body, rfl⟩ := List.getLast?_eq_some_iff.mp named.2
        refine ⟨_, ?_, named.1, rfl⟩
        dsimp only
        rw [List.dropLast_concat, ← opened, List.takeWhile_append_dropWhile]
      next => cases read
    next => cases read
  · rintro ⟨name, rfl, named, same⟩
    have free := (functionName_letters named).1
    have stops (rest : List Char) : ('(' :: rest).head?.any (· != '(') = false := rfl
    unfold readCall?
    dsimp only
    rw [takeWhile_run free (stops _), dropWhile_run free (stops _), named]
    split
    next inner opened =>
      rw [← (List.cons.inj opened).2, List.getLast?_concat, List.dropLast_concat, ← same]
      rfl
    next other => exact absurd rfl (other _)

/-! ## Names -/

/-- The small letter that a letter of a name counts as. -/
def nameLetter (c : Char) : Char :=
  if c.toNat = 0x212A then 'k' else asciiLower c

/-- The small letter of the character is in ASCII: it is an ASCII character itself, or the Kelvin
sign. -/
def lowersToAscii (c : Char) : Bool :=
  c.toNat < 128 || c.toNat == 0x212A

section Lowering

variable {c : Char} {cs : List Char}

theorem lowersToAscii_eq_false_iff :
    lowersToAscii c = false ↔ 128 ≤ c.toNat ∧ c.toNat ≠ 0x212A := by
  rw [lowersToAscii, Bool.or_eq_false_iff, decide_eq_false_iff_not, beq_eq_false_iff_ne, not_lt]

theorem lowerChar_of_ascii (ascii : lowersToAscii c) (before after : List Char) :
    lowerChar before c after = [nameLetter c] := by
  have known : (0x212A :: List.range 128).all fun n =>
      lowerChar [] (Char.ofNat n) [] == [nameLetter (Char.ofNat n)] := by
    decide +kernel
  have place : c.toNat ∈ 0x212A :: List.range 128 := by
    unfold lowersToAscii at ascii
    rw [List.mem_cons, List.mem_range]
    simpa [or_comm] using ascii
  have own := List.all_eq_true.mp known _ place
  rw [Char.ofNat_toNat, beq_iff_eq] at own
  have other : (c.toNat == 0x3A3) = false := by
    rw [beq_eq_false_iff_ne]
    rw [List.mem_cons, List.mem_range] at place
    omega
  -- only a sigma looks at the text around it
  unfold lowerChar at own ⊢
  rwa [other, if_neg Bool.false_ne_true] at own ⊢

/-- Beside the capital letters of ASCII only the Kelvin sign goes over into ASCII. -/
theorem lowerRuns_foreign : lowerRuns.all fun (first, last, _, image) =>
    last < 128 || first == 0x212A && last == 0x212A ||
      128 ≤ image && (image + (last - first) < 0xD800 ||
        0xDFFF < image && image + (last - first) < 0x110000) := by
  decide

theorem toNat_ofNat {n : Nat} (valid : n.isValidChar) : (Char.ofNat n).toNat = n := by
  unfold Char.ofNat
  rw [dif_pos valid]
  rfl

theorem exists_foreign_of_lowerChar (foreign : lowersToAscii c = false) (before after : List Char) :
    ∃ d ∈ lowerChar before c after, 128 ≤ d.toNat := by
  obtain ⟨large, kelvin⟩ := lowersToAscii_eq_false_iff.mp foreign
  unfold lowerChar
  split
  next =>
    split
    next => exact ⟨_, List.mem_singleton_self _, by decide⟩
    next => exact ⟨_, List.mem_singleton_self _, by decide⟩
  split
  next => exact ⟨Char.ofNat 0x307, by simp, by decide⟩
  refine ⟨_, List.mem_singleton_self _, ?_⟩
  unfold runImage?
  cases found : lowerRuns.find? fun (first, last, step, _) =>
    first ≤ c.toNat && c.toNat ≤ last && (c.toNat - first) % step == 0 with
  | none => exact large
  | some run =>
    obtain ⟨first, last, step, image⟩ := run
    have holds := List.find?_some found
    have own := List.all_eq_true.mp lowerRuns_foreign _ (List.mem_of_find?_eq_some found)
    simp only [Bool.and_eq_true, Bool.or_eq_true, decide_eq_true_eq, beq_iff_eq] at holds own
    have bounds : 128 ≤ image + (c.toNat - first) := by omega
    have valid : (image + (c.toNat - first)).isValidChar := by
      unfold Nat.isValidChar
      omega
    rw [Option.map_some, Option.map_some, Option.getD_some, toNat_ofNat valid]
    exact bounds

theorem lowerFrom_of_ascii (ascii : cs.all lowersToAscii) (before : List Char) :
    lowerFrom before cs = cs.map nameLetter := by
  induction cs generalizing before with
  | nil => rfl
  | cons c cs ih =>
    rw [List.all_cons, Bool.and_eq_true] at ascii
    rw [lowerFrom, lowerChar_of_ascii ascii.1, ih ascii.2]
    rfl

theorem exists_foreign_of_lowerFrom (member : c ∈ cs) (foreign : lowersToAscii c = false)
    (before : List Char) : ∃ d ∈ lowerFrom before cs, 128 ≤ d.toNat := by
  induction cs generalizing before with
  | nil => cases member
  | cons head cs ih =>
    rw [lowerFrom]
    rcases List.mem_cons.mp member with rfl | member
    · obtain ⟨d, own, large⟩ := exists_foreign_of_lowerChar foreign before cs
      exact ⟨d, List.mem_append_left _ own, large⟩
    · obtain ⟨d, own, large⟩ := ih member (head :: before)
      exact ⟨d, List.mem_append_right _ own, large⟩

theorem nameLetter_of_foreign (foreign : lowersToAscii c = false) : 128 ≤ (nameLetter c).toNat := by
  obtain ⟨large, kelvin⟩ := lowersToAscii_eq_false_iff.mp foreign
  rw [nameLetter, if_neg kelvin, toNat_asciiLower]
  split <;> omega

/-- A text is an ASCII text in small letters exactly if its letters count as those of that text. -/
theorem lower_eq_iff {target : List Char} (ascii : ∀ c ∈ target, c.toNat < 128) :
    lower cs = target ↔ cs.map nameLetter = target := by
  by_cases all : cs.all lowersToAscii
  · rw [lower, lowerFrom_of_ascii all]
  · -- a character of another script makes both sides hold one
    obtain ⟨c, member, foreign⟩ : ∃ c ∈ cs, lowersToAscii c = false := by simpa using all
    constructor
    · rintro rfl
      obtain ⟨d, own, large⟩ := exists_foreign_of_lowerFrom member foreign []
      have small := ascii d own
      omega
    · rintro rfl
      have small := ascii _ (List.mem_map_of_mem member)
      have large := nameLetter_of_foreign foreign
      omega

end Lowering

/-- The names are not empty, and they are spelled in small ASCII letters. -/
theorem names_letters {name : String} (named : name = transparentName ∨ name ∈ ColorName.names) :
    name.toList ≠ [] ∧ ∀ c ∈ name.toList, 97 ≤ c.toNat ∧ c.toNat ≤ 122 := by
  have known : (transparentName :: ColorName.names).all fun name =>
      !name.toList.isEmpty && name.toList.all fun c => 97 ≤ c.toNat && c.toNat ≤ 122 := by
    decide
  have own := List.all_eq_true.mp known name (List.mem_cons.mpr named)
  rw [Bool.and_eq_true, List.all_eq_true] at own
  refine ⟨by simpa using own.1, fun c member => ?_⟩
  simpa using own.2 c member

/-- A text is a name in small letters exactly if its letters count as those of the name. -/
theorem lowered_eq_iff {cs : List Char} {name : String}
    (named : name = transparentName ∨ name ∈ ColorName.names) :
    lowered (String.ofList cs) = name ↔ cs.map nameLetter = name.toList := by
  have ascii : ∀ c ∈ name.toList, c.toNat < 128 := by
    intro c member
    have small := (names_letters named).2 c member
    omega
  rw [lowered, String.toList_ofList, ← lower_eq_iff ascii, ← String.toList_inj,
    String.toList_ofList]

/-- What is spelled like a name is a word. -/
theorem isWord_of_name {cs : List Char} {name : String}
    (named : name = transparentName ∨ name ∈ ColorName.names)
    (spelled : cs.map nameLetter = name.toList) : isWord cs = true := by
  obtain ⟨nonempty, letters⟩ := names_letters named
  unfold isWord
  rw [Bool.and_eq_true]
  constructor
  · cases cs with
    | nil => exact absurd spelled.symm nonempty
    | cons c cs => rfl
  · refine List.all_eq_true.mpr fun c member => ?_
    have small := letters (nameLetter c) (spelled ▸ List.mem_map_of_mem member)
    unfold nameLetter at small
    unfold isNameLetter
    rw [Bool.or_eq_true, isAsciiLetter_iff]
    split at small
    next kelvin =>
      rw [kelvin]
      exact .inr (by decide)
    next =>
      rw [toNat_asciiLower] at small
      left
      split at small <;> omega

theorem not_isBlank_of_isNameLetter {c : Char} (letter : isNameLetter c) : isBlank c = false := by
  unfold isNameLetter at letter
  rw [Bool.or_eq_true, isAsciiLetter_iff, List.contains_iff_mem] at letter
  simp only [List.mem_cons, List.not_mem_nil, or_false] at letter
  unfold isBlank
  simp
  omega

theorem solid_of_isWord {cs : List Char} (word : isWord cs) : Solid cs := by
  unfold isWord at word
  rw [Bool.and_eq_true, List.all_eq_true] at word
  constructor
  · cases found : cs.head? with
    | none => rfl
    | some c => exact not_isBlank_of_isNameLetter (word.2 c (List.mem_of_head? found))
  · cases found : cs.getLast? with
    | none => rfl
    | some c => exact not_isBlank_of_isNameLetter (word.2 c (List.mem_of_getLast? found))

theorem rgb?_eq_some_iff {cs : List Char} (word : isWord cs) {rgb : Rgb} :
    ColorName.rgb? (String.ofList cs) = some rgb ↔
      ∃ name, (name, rgb) ∈ ColorName.table ∧ cs.map nameLetter = name.toList := by
  have trimmed : Text.trimmed (String.ofList cs) = String.ofList cs := by
    rw [Text.trimmed, String.toList_ofList, trim_solid (solid_of_isWord word)]
  unfold ColorName.rgb?
  rw [trimmed, ColorName.lookup_table_iff]
  constructor
  · intro member
    have named : lowered (String.ofList cs) ∈ ColorName.names := List.mem_map_of_mem member
    exact ⟨_, member, (lowered_eq_iff (.inr named)).mp rfl⟩
  · rintro ⟨name, member, spelled⟩
    have named : name ∈ ColorName.names := List.mem_map_of_mem (f := Prod.fst) member
    rwa [(lowered_eq_iff (.inr named)).mpr spelled]

theorem ofWord?_eq_some_iff {cs : List Char} (word : isWord cs) {color : Color} :
    ofWord? (String.ofList cs) = some color ↔
      (cs.map nameLetter = transparentName.toList ∧ color = ⟨0, 0, 0, 0⟩) ∨
        ∃ name rgb, (name, rgb) ∈ ColorName.table ∧ cs.map nameLetter = name.toList ∧
          color = ofRgb rgb := by
  have clear : lowered (String.ofList cs) = transparentName ↔
      cs.map nameLetter = transparentName.toList := lowered_eq_iff (.inl rfl)
  unfold ofWord?
  split
  next same =>
    have spelled := clear.mp same
    constructor
    · intro read
      exact .inl ⟨spelled, (Option.some.inj read).symm⟩
    · rintro (⟨-, rfl⟩ | ⟨name, rgb, member, other, -⟩)
      · rfl
      · have named : transparentName ∈ ColorName.names := by
          rw [← String.toList_inj.mp (other.symm.trans spelled)]
          exact List.mem_map_of_mem member
        exact absurd named (by decide)
  next different =>
    rw [Option.map_eq_some_iff]
    constructor
    · rintro ⟨rgb, found, rfl⟩
      obtain ⟨name, member, spelled⟩ := (rgb?_eq_some_iff word).mp found
      exact .inr ⟨name, rgb, member, spelled, rfl⟩
    · rintro (⟨spelled, -⟩ | ⟨name, rgb, member, spelled, rfl⟩)
      · exact absurd (clear.mpr spelled) different
      · exact ⟨rgb, (rgb?_eq_some_iff word).mpr ⟨name, member, spelled⟩, rfl⟩

/-! ## The grammar -/

/-- Which characters are digits, and which texts spell a name or the function of a rule. -/
structure Alphabet where
  digit : Char → Bool
  spells : List Char → String → Prop
  calls : List Char → Rule → Prop

/-- ASCII digits, and letters of either case. A function has the name of its rule, perhaps with an
`a` at its end. -/
def ascii : Alphabet where
  digit := isAsciiDigit
  spells cs name := cs.map asciiLower = name.toList
  calls cs rule := cs.map asciiLower = rule.name ∨ cs.map asciiLower = rule.name ++ ['a']

/-- The digits of every script. The Kelvin sign counts as a `k` in a name, and the long `s` as an
`s` in the name of a function, whose rule is then that of `hwb`. -/
def anyScript : Alphabet where
  digit := isDecimalDigit
  spells cs name := cs.map nameLetter = name.toList
  calls cs rule :=
    functionNames.contains (cs.map functionLetter) ∧ rule = .ofName (cs.map asciiLower)

/-- A text denotes a color. -/
inductive Denotes (alphabet : Alphabet) : List Char → Color → Prop
  | transparent {cs : List Char} (spelled : alphabet.spells cs transparentName) :
      Denotes alphabet cs ⟨0, 0, 0, 0⟩
  | name {cs : List Char} {name : String} {rgb : Rgb} (entry : (name, rgb) ∈ ColorName.table)
      (spelled : alphabet.spells cs name) : Denotes alphabet cs (ofRgb rgb)
  | hex {r g b : Char} (digits : [r, g, b].all isHexDigit) :
      Denotes alphabet ['#', r, g, b] ⟨hexChannel r r, hexChannel g g, hexChannel b b, 1⟩
  | hexAlpha {r g b a : Char} (digits : [r, g, b, a].all isHexDigit) :
      Denotes alphabet ['#', r, g, b, a]
        ⟨hexChannel r r, hexChannel g g, hexChannel b b, hexAlpha a a⟩
  | hexPairs {r r' g g' b b' : Char} (digits : [r, r', g, g', b, b'].all isHexDigit) :
      Denotes alphabet ['#', r, r', g, g', b, b']
        ⟨hexChannel r r', hexChannel g g', hexChannel b b', 1⟩
  | hexPairsAlpha {r r' g g' b b' a a' : Char}
      (digits : [r, r', g, g', b, b', a, a'].all isHexDigit) :
      Denotes alphabet ['#', r, r', g, g', b, b', a, a']
        ⟨hexChannel r r', hexChannel g g', hexChannel b b', hexAlpha a a'⟩
  | call {name body : List Char} {rule : Rule} {x y z : Argument} {more : List Argument}
      {color : Color}
      (called : alphabet.calls name rule)
      (spelled : ArgumentsText alphabet.digit body (x :: y :: z :: more)) (few : more.length ≤ 1)
      (computed : rule.color x y z (x :: y :: z :: more) = .ok color) :
      Denotes alphabet (name ++ '(' :: (body ++ [')'])) color

/-! ## What is read -/

section Reading

variable {literal : String} {cs : List Char} {color : Color}

theorem ofHex?_eq_none (other : cs.head? ≠ some '#') : ofHex? cs = none := by
  unfold ofHex?
  split
  next => exact absurd rfl other
  next => rfl

theorem denotes_of_ofHex? {alphabet : Alphabet} (read : ofHex? cs = some color) :
    Denotes alphabet cs color := by
  unfold ofHex? at read
  split at read
  next digits =>
    unfold ofHexDigits? at read
    split at read
    next all =>
      split at read
      next =>
        rw [← Option.some.inj read]
        exact .hex all
      next =>
        rw [← Option.some.inj read]
        exact .hexAlpha all
      next =>
        rw [← Option.some.inj read]
        exact .hexPairs all
      next =>
        rw [← Option.some.inj read]
        exact .hexPairsAlpha all
      next => cases read
    next => cases read
  next => cases read

theorem parse_of_hex (text : trim literal.toList = cs) (read : ofHex? cs = some color) :
    parse literal = .ok color := by
  unfold parse
  dsimp only
  rw [text, read]

theorem parse_of_word (text : trim literal.toList = cs) (word : isWord cs)
    (read : ofWord? (String.ofList cs) = some color) : parse literal = .ok color := by
  have other : cs.head? ≠ some '#' := by
    intro hash
    unfold isWord at word
    rw [Bool.and_eq_true, List.all_eq_true] at word
    exact absurd (word.2 '#' (List.mem_of_head? hash)) (by decide)
  unfold parse
  dsimp only
  rw [text, ofHex?_eq_none other]
  dsimp only
  rw [if_pos word, read]

theorem parse_of_call {call : Call} (text : trim literal.toList = cs)
    (read : readCall? cs = some call) : parse literal = ofCall call := by
  obtain ⟨name, rfl, named, -⟩ := readCall?_eq_some_iff.mp read
  have word : isWord (name ++ '(' :: (call.body ++ [')'])) = false := by
    have mark : isNameLetter '(' = false := by decide
    simp [isWord, mark]
  unfold parse
  dsimp only
  rw [text, ofHex?_eq_none (functionName_head named _)]
  dsimp only
  rw [word, if_neg Bool.false_ne_true, read]

/-- The texts that are read are those that denote a color, with the digits of every script. -/
theorem parse_eq_ok_iff :
    parse literal = .ok color ↔ Denotes anyScript (trim literal.toList) color := by
  constructor
  · intro read
    rcases exists_of_parse read with hex | ⟨word, named⟩ | ⟨call, called, computed⟩
    · exact denotes_of_ofHex? hex
    · rcases (ofWord?_eq_some_iff word).mp named with
          ⟨spelled, rfl⟩ | ⟨name, rgb, entry, spelled, rfl⟩
      · exact .transparent spelled
      · exact .name entry spelled
    · obtain ⟨name, text, named, lowered⟩ := readCall?_eq_some_iff.mp called
      obtain ⟨x, y, z, more, spelled, few, computed⟩ := ofCall_eq_ok_iff.mp computed
      rw [text]
      exact .call ⟨named, congrArg Rule.ofName lowered⟩ spelled few computed
  · intro denotes
    generalize text : trim literal.toList = cs at denotes
    cases denotes with
    | transparent spelled =>
      have word := isWord_of_name (.inl rfl) spelled
      exact parse_of_word text word ((ofWord?_eq_some_iff word).mpr (.inl ⟨spelled, rfl⟩))
    | name entry spelled =>
      have word := isWord_of_name (.inr (List.mem_map_of_mem (f := Prod.fst) entry)) spelled
      exact parse_of_word text word
        ((ofWord?_eq_some_iff word).mpr (.inr ⟨_, _, entry, spelled, rfl⟩))
    | hex digits => exact parse_of_hex text (by rw [ofHex?, ofHexDigits?, if_pos digits])
    | hexAlpha digits => exact parse_of_hex text (by rw [ofHex?, ofHexDigits?, if_pos digits])
    | hexPairs digits => exact parse_of_hex text (by rw [ofHex?, ofHexDigits?, if_pos digits])
    | hexPairsAlpha digits => exact parse_of_hex text (by rw [ofHex?, ofHexDigits?, if_pos digits])
    | @call name body _ _ _ _ _ _ called spelled few computed =>
      obtain ⟨named, rfl⟩ := called
      have read : readCall? (name ++ '(' :: (body ++ [')'])) = some ⟨name.map asciiLower, body⟩ :=
        readCall?_eq_some_iff.mpr ⟨name, rfl, named, rfl⟩
      rw [parse_of_call text read, ofCall_eq_ok_iff]
      exact ⟨_, _, _, _, spelled, few, computed⟩

end Reading

/-! ## ASCII and the other scripts -/

/-- The text holds neither the long `s` nor the Kelvin sign, and no digits but those of ASCII. -/
def Ordinary (cs : List Char) : Prop :=
  ∀ c ∈ cs, c.toNat ≠ 0x17F ∧ c.toNat ≠ 0x212A ∧ (isDecimalDigit c → isAsciiDigit c)

section Alphabets

variable {cs : List Char} {color : Color}

theorem functionLetter_eq {c : Char} (other : c.toNat ≠ 0x17F) : functionLetter c = asciiLower c :=
  if_neg other

theorem nameLetter_eq {c : Char} (other : c.toNat ≠ 0x212A) : nameLetter c = asciiLower c :=
  if_neg other

/-- What counts as a small ASCII letter in the end is an ASCII letter. -/
theorem lt_of_asciiLower_small {c : Char}
    (small : 97 ≤ (asciiLower c).toNat ∧ (asciiLower c).toNat ≤ 122) :
    c.toNat < 128 := by
  rw [toNat_asciiLower] at small
  split at small <;> omega

theorem anyScript_spells_of_ascii {name : String}
    (named : name = transparentName ∨ name ∈ ColorName.names) (spelled : ascii.spells cs name) :
    anyScript.spells cs name := by
  have spelled : cs.map asciiLower = name.toList := spelled
  change cs.map nameLetter = name.toList
  rw [← spelled]
  refine List.map_congr_left fun c member => nameLetter_eq ?_
  have small := (names_letters named).2 (asciiLower c) (spelled ▸ List.mem_map_of_mem member)
  have code := lt_of_asciiLower_small small
  omega

theorem anyScript_calls_of_ascii {rule : Rule} (called : ascii.calls cs rule) :
    anyScript.calls cs rule := by
  have known : functionNames.all fun name => name.all fun c => 97 ≤ c.toNat && c.toNat ≤ 122 := by
    decide
  have named : cs.map asciiLower ∈ functionNames ∧ rule = .ofName (cs.map asciiLower) := by
    rcases called with same | same <;> rw [same] <;> cases rule <;> decide
  have letters : cs.map functionLetter = cs.map asciiLower := by
    refine List.map_congr_left fun c member => functionLetter_eq ?_
    have own := List.all_eq_true.mp (List.all_eq_true.mp known _ named.1) (asciiLower c)
      (List.mem_map_of_mem member)
    have code := lt_of_asciiLower_small (c := c) (by simpa using own)
    omega
  exact ⟨by rw [letters]; exact List.contains_iff_mem.mpr named.1, named.2⟩

theorem ascii_calls_of_anyScript {rule : Rule} (ordinary : Ordinary cs)
    (called : anyScript.calls cs rule) : ascii.calls cs rule := by
  obtain ⟨named, rfl⟩ := called
  have letters : cs.map functionLetter = cs.map asciiLower :=
    List.map_congr_left fun c member => functionLetter_eq (ordinary c member).1
  rw [letters, List.contains_iff_mem] at named
  have known : ∀ name ∈ functionNames,
      name = (Rule.ofName name).name ∨ name = (Rule.ofName name).name ++ ['a'] := by
    decide
  exact known _ named

/-- ASCII texts are ordinary. -/
theorem ordinary_of_ascii (all : ∀ c ∈ cs, c.toNat < 128) : Ordinary cs := by
  intro c member
  have code := all c member
  refine ⟨by omega, by omega, fun digit => ?_⟩
  have own := of_isDecimalDigit (p := fun c => 128 ≤ c.toNat || isAsciiDigit c) (by decide)
    digit
  rw [Bool.or_eq_true, decide_eq_true_eq] at own
  exact own.resolve_left (by omega)

theorem Ordinary.append {front back : List Char} (ordinary : Ordinary (front ++ back)) :
    Ordinary front ∧ Ordinary back :=
  ⟨fun c member => ordinary c (List.mem_append_left _ member),
    fun c member => ordinary c (List.mem_append_right _ member)⟩

/-- All that ASCII texts denote, other texts may denote. -/
theorem Denotes.anyScript (denotes : Denotes ascii cs color) : Denotes anyScript cs color := by
  cases denotes with
  | transparent spelled => exact .transparent (anyScript_spells_of_ascii (.inl rfl) spelled)
  | name entry spelled =>
    have named := List.mem_map_of_mem (f := Prod.fst) entry
    exact .name entry (anyScript_spells_of_ascii (.inr named) spelled)
  | hex digits => exact .hex digits
  | hexAlpha digits => exact .hexAlpha digits
  | hexPairs digits => exact .hexPairs digits
  | hexPairsAlpha digits => exact .hexPairsAlpha digits
  | call called spelled few computed =>
    exact .call (anyScript_calls_of_ascii called)
      (spelled.mono fun _ _ digit => isDecimalDigit_of_isAsciiDigit digit) few computed

/-- An ordinary text denotes a color only as an ASCII text does. -/
theorem Denotes.ascii (ordinary : Ordinary cs) (denotes : Denotes Color.anyScript cs color) :
    Denotes ascii cs color := by
  have letters : cs.map nameLetter = cs.map asciiLower :=
    List.map_congr_left fun c member => nameLetter_eq (ordinary c member).2.1
  cases denotes with
  | transparent spelled => exact .transparent (letters.symm.trans spelled)
  | name entry spelled => exact .name entry (letters.symm.trans spelled)
  | hex digits => exact .hex digits
  | hexAlpha digits => exact .hexAlpha digits
  | hexPairs digits => exact .hexPairs digits
  | hexPairsAlpha digits => exact .hexPairsAlpha digits
  | call called spelled few computed =>
    obtain ⟨front, back⟩ := ordinary.append
    refine .call (ascii_calls_of_anyScript front called) (spelled.mono fun c member digit => ?_) few
      computed
    exact (back c (List.mem_cons_of_mem _ (List.mem_append_left _ member))).2.2 digit

theorem parse?_eq_some_iff {literal : String} :
    parse? literal = some color ↔ Denotes Color.anyScript (trim literal.toList) color := by
  rw [← parse_eq_ok_iff, parse?]
  cases parse literal <;> simp [Except.toOption]

/-- What is read as a color is what denotes it, once the blanks around it are gone. The texts of the
ASCII grammar are among them, and of the ordinary texts no others are. Separators may stand between
the arguments of a call and also before the first and after the last one, as in `rgb(,1,2,3,)`. The
units of three or four arguments are admissible exactly if their rule computes a color. -/
theorem parse?_iff_denotes (literal : String) (color : Color) :
    (parse? literal = some color ↔ Denotes Color.anyScript (trim literal.toList) color) ∧
    (Denotes Color.ascii (trim literal.toList) color → parse? literal = some color) ∧
    (Ordinary (trim literal.toList) →
      (parse? literal = some color ↔ Denotes Color.ascii (trim literal.toList) color)) ∧
    ∀ (rule : Rule) (x y z : Argument) (more : List Argument), more.length ≤ 1 →
      ((∃ painted, rule.color x y z (x :: y :: z :: more) = .ok painted) ↔
        rule.Admits x y z ∧ ∀ argument ∈ more, argument.measure ≠ some .degree) := by
  refine ⟨parse?_eq_some_iff, fun denotes => parse?_eq_some_iff.mpr denotes.anyScript,
    fun ordinary => ⟨fun read => (parse?_eq_some_iff.mp read).ascii ordinary,
      fun denotes => parse?_eq_some_iff.mpr denotes.anyScript⟩,
    fun rule x y z more few => rule.exists_color_iff x y z few⟩

/-- Nothing is painted where the alpha is zero. -/
theorem denotes_unpainted :
    Denotes Color.ascii ['R', 'G', 'B', 'A', '(', '0', ' ', '0', ',', '0', '/', '0', '%', ')']
      ⟨0, 0, 0, 0⟩ := by
  have known : (trim "RGBA(0 0,0/0%)".toList).all (·.toNat < 128) := by decide
  have ordinary : Ordinary (trim "RGBA(0 0,0/0%)".toList) :=
    ordinary_of_ascii fun c member => by simpa using List.all_eq_true.mp known c member
  have read : parse? "RGBA(0 0,0/0%)" = some ⟨0, 0, 0, 0⟩ := by decide +kernel
  exact ((parse?_iff_denotes _ _).2.2.1 ordinary).mp read

end Alphabets

end Swatch.Color
