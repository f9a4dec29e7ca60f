import Mathlib.Data.List.DropRight
import Swatch.Css.Declaration
import Swatch.Proofs.Color.Grammar

/-!
# Names of properties

A property is compared by its name without the blanks around it and with each letter in its small
form. In a style sheet these are the white space of style sheets and the letters of ASCII
(`asciiName`); what is read is `anyScriptName`, with the blanks and the letters of every script
(`allowsColor_eq`). The members of the list are spelled in ASCII, so of all letters only the Kelvin
sign makes a difference, and of all blanks those that are no white space of style sheets
(`asciiName_iff`).
-/

namespace Swatch.Css

open Text Color

/-! ## Names to compare -/

/-- The white space of style sheets. -/
def isStyleBlank (c : Char) : Bool :=
  [' ', '\t', '\n', '\r', '\x0c'].contains c

/-- The name that a property is compared by. -/
def comparedName (blank : Char → Bool) (letter : Char → Char) (property : String) : String :=
  String.ofList (((property.toList.dropWhile blank).rdropWhile blank).map letter)

/-- The name with the white space of style sheets and the letters of ASCII. -/
def asciiName (property : String) : String :=
  comparedName isStyleBlank asciiLower property

/-- The name with the blanks and the letters of every script. -/
def anyScriptName (property : String) : String :=
  comparedName isBlank nameLetter property

/-- The character is not the Kelvin sign, and no blank but white space of style sheets. -/
def isOrdinary (c : Char) : Bool :=
  c.toNat != 0x212A && (!isBlank c || isStyleBlank c)

theorem isStyleBlank_iff (c : Char) : isStyleBlank c = true ↔
    c.toNat = 32 ∨ c.toNat = 9 ∨ c.toNat = 10 ∨ c.toNat = 13 ∨ c.toNat = 12 := by
  unfold isStyleBlank
  rw [List.contains_iff_mem]
  simp [char_eq_iff]

theorem isBlank_of_isStyleBlank {c : Char} (blank : isStyleBlank c) : isBlank c = true := by
  rw [isStyleBlank_iff] at blank
  unfold isBlank
  rcases blank with code | code | code | code | code <;> rw [code] <;> rfl

/-- The members are spelled in small letters and hyphens. -/
theorem colorProperties_letters {name : String} (member : name ∈ colorProperties) :
    ∀ c ∈ name.toList, c.toNat = 45 ∨ 97 ≤ c.toNat ∧ c.toNat ≤ 122 := by
  have known : ∀ name ∈ colorProperties, name.toList.all fun c =>
      c.toNat == 45 || 97 ≤ c.toNat && c.toNat ≤ 122 := by
    decide
  intro c inside
  simpa using List.all_eq_true.mp (known name member) c inside

/-! ## What is read -/

theorem trimEnd_eq_rdropWhile (cs : List Char) : trimEnd cs = cs.rdropWhile isBlank := by
  induction cs using List.reverseRecOn with
  | nil => rfl
  | append_singleton cs c ih =>
    rw [List.rdropWhile_concat]
    split
    next blank => rw [trimEnd_append_blanks cs (by simpa using blank), ih]
    next solid => exact trimEnd_of_last (by simpa using solid)

theorem toList_anyScriptName (property : String) :
    (anyScriptName property).toList = (trim property.toList).map nameLetter := by
  rw [anyScriptName, comparedName, String.toList_ofList, trim, trimEnd_eq_rdropWhile]

/-- The properties that are read are those of the list, compared in every script. -/
theorem allowsColor_eq (property : String) :
    allowsColor property = colorProperties.contains (anyScriptName property) := by
  have spelled {name : String} (member : name ∈ colorProperties) :
      lowered (trimmed property) = name ↔ anyScriptName property = name := by
    have ascii : ∀ c ∈ name.toList, c.toNat < 128 := by
      intro c inside
      have letter := colorProperties_letters member c inside
      omega
    rw [← String.toList_inj, lowered, String.toList_ofList, lower_eq_iff ascii, trimmed,
      String.toList_ofList, ← toList_anyScriptName, String.toList_inj]
  rw [allowsColor, Bool.eq_iff_iff, List.contains_iff_mem, List.contains_iff_mem]
  constructor
  · intro member
    rw [(spelled member).mp rfl]
    exact member
  · intro member
    rw [(spelled member).mpr rfl]
    exact member

/-! ## Style sheets and every script -/

section Comparison

variable {property : String} {cs : List Char}

theorem mem_or_of_dropWhile {p : Char → Bool} {c : Char} (member : c ∈ cs) :
    p c = true ∨ c ∈ cs.dropWhile p := by
  rw [← List.takeWhile_append_dropWhile (p := p) (l := cs), List.mem_append] at member
  exact member.imp_left List.mem_takeWhile_imp

theorem mem_or_of_rdropWhile {p : Char → Bool} {c : Char} (member : c ∈ cs) :
    p c = true ∨ c ∈ cs.rdropWhile p := by
  rw [← List.rdropWhile_append_rtakeWhile (p := p) (l := cs), List.mem_append] at member
  exact member.symm.imp_left List.mem_rtakeWhile_imp

theorem dropWhile_congr {p q : Char → Bool} (same : ∀ c ∈ cs, p c = q c) :
    cs.dropWhile p = cs.dropWhile q := by
  induction cs with
  | nil => rfl
  | cons c cs ih =>
    rw [List.forall_mem_cons] at same
    rw [List.dropWhile_cons, List.dropWhile_cons, same.1, ih same.2]

/-- On ordinary characters it makes no difference which blanks and which letters count. -/
theorem asciiName_eq_of_ordinary (ordinary : property.toList.all isOrdinary) :
    asciiName property = anyScriptName property := by
  have each : ∀ c ∈ property.toList, isStyleBlank c = isBlank c ∧ asciiLower c = nameLetter c := by
    intro c member
    have own := List.all_eq_true.mp ordinary c member
    unfold isOrdinary at own
    rw [Bool.and_eq_true, bne_iff_ne] at own
    refine ⟨?_, (nameLetter_eq own.1).symm⟩
    rw [Bool.eq_iff_iff]
    refine ⟨isBlank_of_isStyleBlank, fun blank => ?_⟩
    simpa [blank] using own.2
  have front : property.toList.dropWhile isStyleBlank = property.toList.dropWhile isBlank :=
    dropWhile_congr fun c member => (each c member).1
  have inside : ∀ c ∈ property.toList.dropWhile isBlank, c ∈ property.toList := fun c member =>
    (List.dropWhile_sublist _).subset member
  have back : (property.toList.dropWhile isBlank).rdropWhile isStyleBlank =
      (property.toList.dropWhile isBlank).rdropWhile isBlank := by
    unfold List.rdropWhile
    rw [dropWhile_congr fun c member => (each c (inside c (List.mem_reverse.mp member))).1]
  rw [asciiName, anyScriptName, comparedName, comparedName, front, back]
  refine congrArg _ (List.map_congr_left fun c member => (each c ?_).2)
  exact inside c (List.rdropWhile_prefix _ _ |>.subset member)

/-- A property of the list in ASCII holds ordinary characters only. -/
theorem ordinary_of_asciiName (listed : asciiName property ∈ colorProperties) :
    property.toList.all isOrdinary := by
  have letters := colorProperties_letters listed
  unfold asciiName comparedName at letters
  rw [String.toList_ofList] at letters
  rw [List.all_eq_true]
  intro c member
  have blank (white : isStyleBlank c) : isOrdinary c = true := by
    have code := (isStyleBlank_iff c).mp white
    have other : c.toNat ≠ 0x212A := by omega
    simp [isOrdinary, white, other]
  rcases mem_or_of_dropWhile member with white | member
  · exact blank white
  rcases mem_or_of_rdropWhile member with white | member
  · exact blank white
  · have letter := letters (asciiLower c) (List.mem_map_of_mem member)
    rw [toNat_asciiLower] at letter
    have solid : isBlank c = false := by
      simp only [isBlank, Bool.or_eq_false_iff, Bool.and_eq_false_iff, decide_eq_false_iff_not,
        beq_eq_false_iff_ne]
      split at letter <;> omega
    have other : c.toNat ≠ 0x212A := by split at letter <;> omega
    simp [isOrdinary, solid, other]

/-- Compared in ASCII, a property is one of the list exactly if it is one in every script and all
its characters are ordinary. -/
theorem asciiName_iff : asciiName property ∈ colorProperties ↔
    anyScriptName property ∈ colorProperties ∧ property.toList.all isOrdinary := by
  constructor
  · intro listed
    have ordinary := ordinary_of_asciiName listed
    exact ⟨asciiName_eq_of_ordinary ordinary ▸ listed, ordinary⟩
  · rintro ⟨listed, ordinary⟩
    rw [asciiName_eq_of_ordinary ordinary]
    exact listed

/-- The members in any case of their ASCII letters. -/
theorem asciiName_of_asciiLowered (spelled : asciiLowered property ∈ colorProperties) :
    asciiName property ∈ colorProperties := by
  have letters := colorProperties_letters spelled
  unfold asciiLowered at letters
  rw [String.toList_ofList] at letters
  have solid : ∀ c ∈ property.toList, isStyleBlank c = false := by
    intro c member
    have letter := letters (asciiLower c) (List.mem_map_of_mem member)
    rw [toNat_asciiLower] at letter
    rw [← Bool.not_eq_true, isStyleBlank_iff]
    split at letter <;> omega
  have whole : (property.toList.dropWhile isStyleBlank).rdropWhile isStyleBlank =
      property.toList := by
    rw [List.dropWhile_eq_self_iff.mpr, List.rdropWhile_eq_self_iff]
    · intro nonempty blank
      rw [solid _ (List.getLast_mem nonempty)] at blank
      exact Bool.false_ne_true blank
    · intro nonempty blank
      rw [solid _ (List.getElem_mem nonempty)] at blank
      exact Bool.false_ne_true blank
  rwa [asciiName, comparedName, whole]

end Comparison

end Swatch.Css
