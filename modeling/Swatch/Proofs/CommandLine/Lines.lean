import Swatch.Proofs.CommandLine.Extraction
import Swatch.Proofs.Extraction.Joined

/-!
# The colors in an output

A command puts a line end behind each color. A color as it is written in a style sheet may hold line
ends of its own, but only between the brackets of a call (`layout_of_denotes`); what a format writes
holds none (`not_mem_of_written`). So the colors stand between the line ends outside brackets, and
they stand between all the line ends exactly if none of them holds one (`colors_of_output`).
-/

open Swatch.Css (IsLiteral isNameStart)
open Swatch.Text (isHexDigit isAsciiDigit trim_solid)
open Swatch.Color (isNameLetter functionNames functionLetter)

namespace Swatch.CommandLine

/-! ## Pieces of a text -/

/-- The texts of pieces; an empty piece at the end is none. -/
def texts (pieces : List (List Char)) : List String :=
  (if pieces.getLast? = some [] then pieces.dropLast else pieces).map String.ofList

/-- What stands between the line ends of a text. -/
def lines (text : String) : List String :=
  texts (text.toList.splitOn '\n')

/-- The number of brackets that are open behind a character. -/
def openedBehind (opened : Nat) (c : Char) : Nat :=
  if c = '(' then opened + 1 else if c = ')' then opened - 1 else opened

/-- The pieces between the line ends outside brackets, where some brackets are open at the start. -/
def outerPieces (opened : Nat) : List Char → List (List Char)
  | [] => [[]]
  | c :: cs =>
    if c = '\n' ∧ opened = 0 then [] :: outerPieces 0 cs
    else (outerPieces (openedBehind opened c) cs).modifyHead (c :: ·)

/-- What stands between the line ends of a text that are outside brackets. -/
def outerLines (text : String) : List String :=
  texts (outerPieces 0 text.toList)

theorem texts_concat (pieces : List (List Char)) :
    texts (pieces ++ [[]]) = pieces.map String.ofList := by
  rw [texts, List.getLast?_concat, if_pos rfl, List.dropLast_concat]

theorem not_mem_of_mem_splitOn {a : Char} {cs piece : List Char} (member : piece ∈ cs.splitOn a) :
    a ∉ piece := by
  induction cs generalizing piece with
  | nil =>
    rw [List.splitOn_nil, List.mem_singleton] at member
    rw [member]
    exact List.not_mem_nil
  | cons c cs ih =>
    rw [List.splitOn_cons_eq_if_modifyHead] at member
    split at member
    next =>
      rcases List.mem_cons.mp member with rfl | member
      · exact List.not_mem_nil
      · exact ih member
    next other =>
      obtain ⟨first, pieces, split⟩ := List.exists_cons_of_ne_nil (List.splitOn_ne_nil a cs)
      rw [split] at member ih
      rcases List.mem_cons.mp member with rfl | member
      · rw [List.mem_cons, not_or]
        exact ⟨fun same => other (beq_iff_eq.mpr same.symm), ih List.mem_cons_self⟩
      · exact ih (List.mem_cons_of_mem _ member)

theorem not_mem_of_mem_lines {text line : String} (member : line ∈ lines text) :
    '\n' ∉ line.toList := by
  obtain ⟨piece, own, rfl⟩ := List.mem_map.mp member
  have among : piece ∈ text.toList.splitOn '\n' := by
    split at own
    next => exact List.dropLast_subset _ own
    next => exact own
  rw [String.toList_ofList]
  exact not_mem_of_mem_splitOn among

/-! ## The layout of a color -/

/-- A character that is neither a line end nor a round bracket. -/
def isInline (c : Char) : Bool :=
  c != '\n' && c != '(' && c != ')'

/-- A text without line ends and brackets, or a call of a color function with its arguments between
brackets. -/
inductive Layout : List Char → Prop
  | inline {cs : List Char} (all : cs.all isInline) : Layout cs
  | call {name body : List Char} {arguments : List Color.Argument}
      (named : functionNames.contains (name.map functionLetter))
      (read : Color.readArguments body = .ok arguments) : Layout (name ++ '(' :: (body ++ [')']))

section Inline

variable {cs : List Char}

theorem isInline_iff {c : Char} : isInline c = true ↔ c ≠ '\n' ∧ c ≠ '(' ∧ c ≠ ')' := by
  simp [isInline, and_assoc]

theorem all_isInline_of {p : Char → Bool} (ends : p '\n' = false) (opening : p '(' = false)
    (closing : p ')' = false) (all : ∀ c ∈ cs, p c = true) : cs.all isInline := by
  rw [List.all_eq_true]
  intro c member
  have own := all c member
  rw [isInline_iff]
  refine ⟨?_, ?_, ?_⟩ <;> rintro rfl
  · rw [ends] at own
    cases own
  · rw [opening] at own
    cases own
  · rw [closing] at own
    cases own

theorem not_mem_of_all_isInline (all : cs.all isInline) : '\n' ∉ cs :=
  fun member => (isInline_iff.mp (List.all_eq_true.mp all _ member)).1 rfl

theorem all_isInline_of_isWord (word : Color.isWord cs) : cs.all isInline := by
  rw [Color.isWord, Bool.and_eq_true] at word
  exact all_isInline_of (p := isNameLetter) rfl rfl rfl (List.all_eq_true.mp word.2)

theorem all_isInline_hex {digits : List Char} (all : digits.all isHexDigit) :
    ('#' :: digits).all isInline := by
  rw [List.all_cons, Bool.and_eq_true]
  exact ⟨rfl, all_isInline_of (p := isHexDigit) (by decide) (by decide) (by decide)
    (List.all_eq_true.mp all)⟩

theorem all_isInline_functionName (named : functionNames.contains (cs.map functionLetter)) :
    cs.all isInline :=
  all_isInline_of (p := isNameStart) rfl rfl rfl fun _ member =>
    (Css.letters_of_functionName named member).1

end Inline

/-- Arguments hold no brackets. -/
theorem not_bracket_of_readArguments {body : List Char} {arguments : List Color.Argument}
    (read : Color.readArguments body = .ok arguments) {c : Char} (member : c ∈ body) :
    c ≠ '(' ∧ c ≠ ')' := by
  have tidy := Color.tidy_of_argumentsText (Color.readArguments_eq_ok_iff.mp read)
  have own := List.all_eq_true.mp tidy.all c member
  constructor
  · rintro rfl
    cases own
  · rintro rfl
    cases own

theorem layout_of_denotes {cs : List Char} {color : Color}
    (denotes : Color.Denotes Color.anyScript cs color) : Layout cs := by
  cases denotes with
  | transparent spells =>
    exact .inline (all_isInline_of_isWord (Color.isWord_of_name (.inl rfl) spells))
  | name entry spells =>
    exact .inline (all_isInline_of_isWord
      (Color.isWord_of_name (.inr (List.mem_map_of_mem (f := Prod.fst) entry)) spells))
  | hex digits => exact .inline (all_isInline_hex digits)
  | hexAlpha digits => exact .inline (all_isInline_hex digits)
  | hexPairs digits => exact .inline (all_isInline_hex digits)
  | hexPairsAlpha digits => exact .inline (all_isInline_hex digits)
  | call called spelled few computed =>
    exact .call called.1 (Color.readArguments_eq_ok_iff.mpr spelled)

/-! ## Formats -/

theorem not_mem_of_writtenArgument {cs : List Char} {argument : Color.Argument}
    (written : Color.WrittenArgument cs argument) : '\n' ∉ cs := by
  have numeral {cs : List Char} {value : Binary64} (own : Color.WrittenNumeral cs value) :
      '\n' ∉ cs := by
    obtain ⟨-, -, all, all'⟩ := own
    rename_i negative whole places
    have digits {run : List Char} (all : run.all isAsciiDigit) : '\n' ∉ run :=
      fun member => absurd (List.all_eq_true.mp all _ member) (by decide)
    have sign : '\n' ∉ if negative then ['-'] else [] := by
      cases negative <;> decide
    have point : '\n' ∉ Css.pointed places := by
      cases places with
      | nil => exact List.not_mem_nil
      | cons d places =>
        rw [Css.pointed, List.mem_cons, not_or]
        · exact ⟨by decide, digits all'⟩
        · simp
    simp only [List.mem_append, not_or]
    exact ⟨sign, digits all, point⟩
  cases written with
  | number own => exact numeral own
  | percent own =>
    rw [List.mem_append, not_or]
    exact ⟨numeral own, by decide⟩

theorem not_mem_of_writtenArguments {fields : List (List Char)} {arguments : List Color.Argument}
    (each : List.Forall₂ Color.WrittenArgument fields arguments) :
    '\n' ∉ [',', ' '].intercalate fields := by
  induction each with
  | nil => exact List.not_mem_nil
  | cons own others ih =>
    have first := not_mem_of_writtenArgument own
    cases others with
    | nil => simpa using first
    | cons own' others =>
      rw [List.intercalate_cons_cons]
      simp only [List.mem_append, not_or]
      exact ⟨⟨first, by decide⟩, ih⟩

/-- What a format writes holds no line end. -/
theorem not_mem_of_written {cs : List Char} (written : Color.Written cs) : '\n' ∉ cs := by
  cases written with
  | hex all => exact not_mem_of_all_isInline (all_isInline_hex all)
  | name named =>
    exact not_mem_of_all_isInline (all_isInline_of_isWord (Color.isWord_of_name (.inr named)
      (Color.anyScript_spells_of_ascii (.inr named) (Color.ascii_spells_name named))))
  | @call name rule fields x y z more called each few admitted plain =>
    have front : '\n' ∉ name := fun member =>
      absurd ((Color.letters_of_calls called).2 _ member) (by decide)
    simp only [List.mem_append, List.mem_cons, not_or]
    exact ⟨front, by decide, not_mem_of_writtenArguments each, by decide⟩

theorem written_of_format {options : Options} {literal text : String}
    (known : options.format?.isSome) (formatted : Palette.format options literal = .ok text) :
    Color.Written text.toList := by
  rcases Palette.format_cases formatted with ⟨unformatted, -⟩ | ⟨color, format, -, read, computed⟩
  · rw [unformatted] at known
    cases known
  · exact Color.written_of_write (Color.ranged_of_parse read) computed

/-! ## Lines of colors -/

/-- Lines of a kind are what is cut out when each of them is cut off with its line end. -/
theorem split_flatMap {split : List Char → List (List Char)} {P : List Char → Prop}
    (empty : split [] = [[]])
    (next : ∀ line rest, P line → split (line ++ '\n' :: rest) = line :: split rest)
    {lines : List (List Char)} (each : ∀ line ∈ lines, P line) :
    split (lines.flatMap (· ++ ['\n'])) = lines ++ [[]] := by
  induction lines with
  | nil => exact empty
  | cons line lines ih =>
    rw [List.forall_mem_cons] at each
    rw [List.flatMap_cons, List.append_assoc, List.singleton_append, next _ _ each.1, ih each.2]
    rfl

/-- A run without brackets that is inside brackets or without line ends stays in one piece. -/
theorem outerPieces_run {opened : Nat} {cs : List Char}
    (whole : ∀ c ∈ cs, (c ≠ '(' ∧ c ≠ ')') ∧ ¬(c = '\n' ∧ opened = 0)) (rest : List Char) :
    outerPieces opened (cs ++ rest) = (outerPieces opened rest).modifyHead (cs ++ ·) := by
  induction cs with
  | nil => exact (congrFun List.modifyHead_id _).symm
  | cons c cs ih =>
    rw [List.forall_mem_cons] at whole
    obtain ⟨⟨⟨opening, closing⟩, inner⟩, others⟩ := whole
    rw [List.cons_append, outerPieces, if_neg inner, openedBehind, if_neg opening, if_neg closing,
      ih others, List.modifyHead_modifyHead]
    rfl

theorem outerPieces_layout {cs : List Char} (layout : Layout cs) (rest : List Char) :
    outerPieces 0 (cs ++ '\n' :: rest) = cs :: outerPieces 0 rest := by
  have stay {run : List Char} (all : run.all isInline) :
      ∀ c ∈ run, (c ≠ '(' ∧ c ≠ ')') ∧ ¬(c = '\n' ∧ (0 : Nat) = 0) := by
    intro c member
    obtain ⟨ends, brackets⟩ := isInline_iff.mp (List.all_eq_true.mp all c member)
    exact ⟨brackets, fun both => ends both.1⟩
  cases layout with
  | inline all =>
    rw [outerPieces_run (stay all), outerPieces, if_pos ⟨rfl, rfl⟩, List.modifyHead_cons,
      List.append_nil]
  | @call name body arguments named read =>
    -- One bracket is open all along the arguments, so no line end among them is cut at.
    have inside : ∀ c ∈ body, (c ≠ '(' ∧ c ≠ ')') ∧ ¬(c = '\n' ∧ 1 = 0) := by
      intro c member
      exact ⟨not_bracket_of_readArguments read member, fun both => absurd both.2 (by decide)⟩
    have opening (rest : List Char) :
        outerPieces 0 ('(' :: rest) = (outerPieces 1 rest).modifyHead ('(' :: ·) := rfl
    have closing (rest : List Char) :
        outerPieces 1 (')' :: rest) = (outerPieces 0 rest).modifyHead (')' :: ·) := rfl
    rw [List.append_assoc, List.cons_append, List.append_assoc, List.singleton_append,
      outerPieces_run (stay (all_isInline_functionName named)), opening, outerPieces_run inside,
      closing, outerPieces, if_pos ⟨rfl, rfl⟩]
    simp only [List.modifyHead_cons]

theorem toList_output (colors : List String) :
    ("".intercalate (colors.map (· ++ "\n"))).toList =
      (colors.map String.toList).flatMap (· ++ ['\n']) := by
  induction colors with
  | nil => rfl
  | cons color colors ih =>
    rw [List.map_cons, List.map_cons, List.flatMap_cons, ← ih]
    cases colors with
    | nil => simp
    | cons second colors =>
      rw [List.map_cons, String.intercalate_cons_cons]
      simp

theorem texts_of_lines (colors : List String) :
    texts (colors.map String.toList ++ [[]]) = colors := by
  rw [texts_concat, List.map_map]
  exact (List.map_congr_left fun color _ => String.ofList_toList).trans (List.map_id _)

/-- The colors of an output stand between its line ends outside brackets. -/
theorem outerLines_output {colors : List String} (layout : ∀ color ∈ colors, Layout color.toList) :
    outerLines ("".intercalate (colors.map (· ++ "\n"))) = colors := by
  have pieces : outerPieces 0 ((colors.map String.toList).flatMap (· ++ ['\n'])) =
      colors.map String.toList ++ [[]] :=
    split_flatMap (P := Layout) rfl (fun _ rest own => outerPieces_layout own rest)
      (List.forall_mem_map.mpr layout)
  rw [outerLines, toList_output, pieces, texts_of_lines]

/-- The colors of an output stand between its line ends exactly if they hold none. -/
theorem lines_output_iff {colors : List String} :
    lines ("".intercalate (colors.map (· ++ "\n"))) = colors ↔
      ∀ color ∈ colors, '\n' ∉ color.toList := by
  constructor
  · intro same color member
    rw [← same] at member
    exact not_mem_of_mem_lines member
  · intro unbroken
    have pieces : ((colors.map String.toList).flatMap (· ++ ['\n'])).splitOn '\n' =
        colors.map String.toList ++ [[]] :=
      split_flatMap (P := fun line => '\n' ∉ line) rfl
        (fun _ rest own => List.splitOn_append_cons_self_of_not_mem own rest)
        (List.forall_mem_map.mpr unbroken)
    rw [lines, toList_output, pieces, texts_of_lines]

theorem layout_of_format {options : Options} {literal text : String} (own : IsLiteral literal)
    (formatted : Palette.format options literal = .ok text) : Layout text.toList := by
  obtain ⟨component, single⟩ := exists_single_of_format own formatted
  obtain ⟨color, read⟩ :=
    Palette.isNamedBy_of_format (Color.isNamedBy_iff.mpr own.2) formatted
  have denotes := Color.parse_eq_ok_iff.mp read
  rw [trim_solid single.solid] at denotes
  exact layout_of_denotes denotes

/-- A command that ends well puts out the colors of its sheet, which stand between the line ends
outside brackets. They stand between all the line ends exactly if no color holds one, as with any
format; a color that holds one is a call, with the line end among its arguments. -/
theorem colors_of_output (surroundings : Surroundings) {arguments : List String}
    {invocation : Invocation} (accepted : Command.read arguments = .ok (.extract invocation))
    (success : (run surroundings arguments).status = 0) :
    ∃ options text colors, effectiveOptions surroundings arguments = .ok options ∧
      Invocation.readInput surroundings invocation.input = .ok text ∧
      Extraction.ofStylesheet options text = .ok colors ∧
      outerLines (run surroundings arguments).output = colors ∧
      (lines (run surroundings arguments).output = colors ↔
        ∀ color ∈ colors, '\n' ∉ color.toList) ∧
      (options.format?.isSome → ∀ color ∈ colors, '\n' ∉ color.toList) ∧
      ∀ color ∈ colors, Layout color.toList := by
  have own := Invocation.colors_eq surroundings accepted
  rw [run_eq_outcome surroundings accepted] at success ⊢
  cases found : (invocation.colors surroundings).1 with
  | error message =>
    rw [(Invocation.outcome_of_message surroundings found).1] at success
    cases success
  | ok colors =>
    rw [found] at own
    obtain ⟨options, text, effective, read, own⟩ := extraction_eq_ok_iff.mp own.symm
    rw [(Invocation.outcome_of_colors surroundings found).2]
    have layout : ∀ color ∈ colors, Layout color.toList := by
      intro color member
      obtain ⟨literal, literal', formatted⟩ := exists_literal_of_mem_ofStylesheet own member
      exact layout_of_format literal' formatted
    refine ⟨options, text, colors, effective, read, own, outerLines_output layout,
      lines_output_iff, fun known color member => ?_, layout⟩
    obtain ⟨literal, -, formatted⟩ := exists_literal_of_mem_ofStylesheet own member
    exact not_mem_of_written (written_of_format known formatted)

/-- A color with a line end, in an empty directory. -/
def Surroundings.broken : Surroundings where
  world := .empty
  standardInput := "a\x7bcolor:rgb(1,\n2,3)\x7d"
  time := ""

/-- The one color is put out as two lines, and told by the brackets it is one. -/
theorem colors_of_broken_output :
    (run .broken ["-"]).status = 0 ∧ (run .broken ["-"]).output = "rgb(1,\n2,3)\n" ∧
      lines (run .broken ["-"]).output = ["rgb(1,", "2,3)"] ∧
      outerLines (run .broken ["-"]).output = ["rgb(1,\n2,3)"] := by
  have accepted : Command.read ["-"] = .ok (.extract { input := "-" }) := by with_unfolding_all rfl
  have options : effectiveOptions .broken ["-"] = .ok {} := by with_unfolding_all rfl
  have found : Extraction.ofStylesheet {} Surroundings.broken.standardInput =
      .ok ["rgb(1,\n2,3)"] := Outcome.eq_ok_of_toOption (by decide +kernel)
  have colors : (Invocation.colors { input := "-" } .broken).1 = .ok ["rgb(1,\n2,3)"] := by
    rw [Invocation.colors_eq .broken accepted]
    exact extraction_eq_ok_iff.mpr ⟨_, _, options, rfl, found⟩
  obtain ⟨status, output⟩ := Invocation.outcome_of_colors .broken colors
  rw [← run_eq_outcome .broken accepted] at status output
  obtain ⟨_, _, _, options', input, found', outer, -⟩ := colors_of_output .broken accepted status
  cases options.symm.trans options'
  cases input
  cases found.symm.trans found'
  refine ⟨status, output, ?_, outer⟩
  rw [output]
  decide

end Swatch.CommandLine
