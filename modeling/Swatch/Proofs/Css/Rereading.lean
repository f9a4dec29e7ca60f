import Swatch.Proofs.Css.Margins
import Swatch.Proofs.Css.PlainText
import Swatch.Proofs.Css.Settling

/-!
# Plain texts written and read again

The components of a plain text are written without the blanks around them, and the written text is
read again. Blanks at the ends are lost, and the blank after the code of a unit may be among them;
neither changes a lexeme (`exists_core`). So a plain text with balanced brackets is cut into the
same pieces before and after (`cutPieces_rewritten`), and it is so as well when the blanks are kept
(`ReadsBack`).
-/

namespace Swatch.Css

open Text

/-! ## Ends of lexemes -/

theorem startsRange_cons_cons (u c d : Char) (ds : List Char) :
    Lexeme.startsRange u (c :: d :: ds) = Lexeme.startsRange u [c, d] := by
  by_cases plus : c = '+'
  · subst plus
    rfl
  · simp [Lexeme.startsRange, plus]

/-- Whether a lexeme ends is decided by the next three characters. -/
theorem Lexeme.EndsBefore.of_append {lexeme : Lexeme} {front back : List Char}
    (valid : lexeme.Valid) (long : 3 ≤ front.length) (ends : lexeme.EndsBefore (front ++ back)) :
    lexeme.EndsBefore front := by
  match front, long with
  | c :: d :: e :: es, _ =>
    cases lexeme with
    | token part =>
      cases part with
      | ident word =>
        obtain ⟨name, round, hidden, range⟩ := ends
        rw [List.cons_append, List.cons_append, startsRange_cons_cons] at range
        refine ⟨name, round, hidden, fun letter => ?_⟩
        rw [startsRange_cons_cons]
        exact range letter
      | delim text =>
        obtain ⟨first, spelled, -⟩ := valid
        obtain ⟨name, numeral, number, slash⟩ := ends
        rw [spelled] at name numeral
        rw [EndsBefore, spelled]
        refine ⟨name, ?_, number, slash⟩
        rw [Bool.eq_false_iff, ne_eq] at numeral ⊢
        rw [List.singleton_append, startsNumeral_cons_iff] at numeral ⊢
        exact numeral
      | _ => exact ends
    | _ => exact ends

/-- The only blank of a plain text is the space. -/
theorem isBlank_iff_of_plain {c : Char} (plain : isPlain c) : isBlank c = true ↔ c = ' ' := by
  rw [isPlain_iff] at plain
  rw [char_eq_iff]
  change _ ↔ c.toNat = 32
  simp only [isBlank, Bool.or_eq_true, Bool.and_eq_true, decide_eq_true_eq, beq_iff_eq]
  omega

theorem last_not_blank {cs : List Char} (free : ∀ c ∈ cs, isBlank c = false) :
    cs.getLast?.any isBlank = false := by
  cases last : cs.getLast? with
  | none => rfl
  | some c => exact free c (List.mem_of_getLast? last)

/-- A lexeme of a plain text with all its characters. -/
def IsPlainLexeme (lexeme : Lexeme) : Prop :=
  ∃ piece rest, Spells piece lexeme rest ∧ piece.all isPlain

/-- All lexemes of the row are those of plain texts. -/
def PlainRow (row : List Lexeme) : Prop :=
  ∀ lexeme ∈ row, IsPlainLexeme lexeme

theorem plainRow_significant {text : List Char} (plain : Plain text) :
    PlainRow (significant text) := by
  induction length : text.length using Nat.strong_induction_on generalizing text with
  | _ n ih =>
    cases text with
    | nil =>
      rw [significant_nil]
      intro lexeme member
      cases member
    | cons c cs =>
      obtain ⟨piece, lexeme, rest, whole, spells, shorter, later, read⟩ := plain.significant
      rw [read]
      intro other member
      rcases List.mem_cons.mp member with rfl | member
      · have chars := plain.chars
        rw [whole, List.all_append, Bool.and_eq_true] at chars
        exact ⟨piece, rest, spells, chars.1⟩
      · exact ih _ (by rw [← length]; exact Nat.lt_succ_of_le shorter) later rfl other member

/-- Only a run of spaces holds blanks. -/
theorem Spells.free_of_blanks {piece rest : List Char} {lexeme : Lexeme}
    (spells : Spells piece lexeme rest) (chars : piece.all isPlain)
    (other : ∀ run, lexeme ≠ .token (.whitespace run)) : ∀ c ∈ piece, isBlank c = false := by
  intro c member
  rw [Bool.eq_false_iff, ne_eq, isBlank_iff_of_plain (List.all_eq_true.mp chars c member)]
  clear chars
  rintro rfl
  have all {p : Char → Bool} {cs : List Char} (all : cs.all p) (no : p ' ' = false) : ' ' ∉ cs := by
    intro member
    rw [List.all_eq_true.mp all _ member] at no
    cases no
  have name {cs : List Char} (chars : cs.all isNameChar) : ' ' ∉ cs := all chars rfl
  have numeral (whole : Numeral) : ' ' ∉ whole.text := all whole.all_text rfl
  cases spells with
  | whitespace nonempty spaces stops => exact other _ rfl
  | ident starts chars range => exact name chars member
  | function starts chars plain =>
    rcases List.mem_append.mp member with member | member
    · exact name chars member
    · simp at member
  | number whole percent => exact numeral whole member
  | percentage whole =>
    rcases List.mem_append.mp member with member | member
    · exact numeral whole member
    · simp at member
  | dimension whole starts chars exponent =>
    rcases List.mem_append.mp member with member | member
    · exact numeral whole member
    · exact name chars member
  | hash nonempty chars =>
    rcases List.mem_cons.mp member with same | member
    · simp at same
    · exact name chars member
  | range letter hex small =>
    simp only [List.mem_cons] at member
    rcases member with rfl | same | member
    · simp at letter
    · simp at same
    · exact all hex rfl member
  | round => simp at member
  | closing => simp at member
  | sign sign plain hyphen =>
    rw [← List.mem_singleton.mp member] at sign
    cases sign

/-- A unit that ends with the code of its letter needs no blank behind it. -/
theorem significant_code (whole : Numeral) :
    significant (whole.text ++ ['\\', '6', '5']) =
      [.token (.dimension (String.ofList whole.text) "e")] := by
  obtain ⟨c, cs, text, read⟩ := Lexeme.readsTo_numeral whole ['\\', '6', '5']
    (Lexeme.goesOn_eq_false rfl fun _ => rfl)
  have code : readName ['\\', '6', '5'] = (['e'], []) := by
    rw [readName_escape ['6', '5'] rfl, show readEscape ['6', '5'] = ('e', []) by decide,
      readName_of_endsName [] rfl]
  rw [Lexeme.readMeasure_of_startsName rfl, code] at read
  rw [text, significant_of_read read (by simp), significant_nil]

theorem last_writeHex (n : Nat) (front : List Char) :
    (front ++ writeHex n).getLast?.any isBlank = false := by
  obtain ⟨d, ds, written, -⟩ := head_writeHex n
  have digits := all_writeHex n
  rw [List.getLast?_append_of_ne_nil _ (by rw [written]; simp)]
  refine last_not_blank fun c member => ?_
  have hex := List.all_eq_true.mp digits c member
  rw [isHexDigit_iff] at hex
  simp only [isBlank, Bool.or_eq_false_iff, Bool.and_eq_false_iff, decide_eq_false_iff_not,
    beq_eq_false_iff_ne]
  omega

/-- The text is a core with blanks behind it, and the core reads as the row. Either there are no
such blanks, or the core is so long that what stands before it ends without regard to them. -/
structure Core (text core back : List Char) (row : List Lexeme) : Prop where
  split : text = core ++ back
  blank : back.all isBlank
  solid : core.getLast?.any isBlank = false
  long : back = [] ∨ 3 ≤ core.length
  read : significant core = row

section Core

variable {text core back : List Char} {row : List Lexeme} {lexeme : Lexeme}

theorem Core.ne_nil (own : Core text core back (lexeme :: row)) : core ≠ [] := by
  rintro rfl
  have read := own.read
  rw [significant_nil] at read
  cases read

/-- What stands before a core is part of a longer one. -/
theorem Core.prepend {row' : List Lexeme} (own : Core text core back (lexeme :: row))
    (front : List Char) (read : significant (front ++ core) = row') :
    Core (front ++ text) (front ++ core) back row' where
  split := by rw [own.split, List.append_assoc]
  blank := own.blank
  solid := by rw [List.getLast?_append_of_ne_nil _ own.ne_nil, own.solid]
  long := own.long.imp_right fun long => by
    rw [List.length_append]
    omega
  read := read

/-- What ends before the text ends before the core as well. -/
theorem Core.endsBefore (own : Core text core back row) (valid : lexeme.Valid)
    (ends : lexeme.EndsBefore text) : lexeme.EndsBefore core := by
  rw [own.split] at ends
  rcases own.long with rfl | long
  · rwa [List.append_nil] at ends
  · exact ends.of_append valid long

end Core

/-- A lexeme that is no run of spaces is written with no blank at its end but the one of a code, and
reads back without it. -/
theorem Spells.write_core {piece rest : List Char} {lexeme : Lexeme}
    (spells : Spells piece lexeme rest) (chars : piece.all isPlain)
    (other : ∀ run, lexeme ≠ .token (.whitespace run)) :
    ∃ core back, Core lexeme.write core back [lexeme.settled] := by
  have whole (last : lexeme.write.getLast?.any isBlank = false) :
      ∃ core back, Core lexeme.write core back [lexeme.settled] := by
    have read := significant_write lexeme spells.valid
      (Lexeme.endsBefore_of_slash spells.valid (.inl rfl))
    rw [List.append_nil, significant_nil] at read
    exact ⟨lexeme.write, [], (List.append_nil _).symm, rfl, last, .inl rfl, read⟩
  have free := spells.free_of_blanks chars other
  rcases spells.write_cases with
    same | ⟨first, last, rfl⟩ | ⟨numeral, marker, tail, rfl, letter, -, rfl, written⟩
  · apply whole
    rw [same]
    exact last_not_blank free
  · apply whole
    change ("U+".toList ++ writeHex first ++
      if first = last then [] else '-' :: writeHex last).getLast?.any isBlank = false
    split
    next => rw [List.append_nil, last_writeHex]
    next => rw [List.append_cons, last_writeHex]
  · cases tail with
    | nil =>
      refine ⟨numeral.text ++ ['\\', '6', '5'], [' '], by rw [written]; simp, rfl, by simp; rfl,
        by simp, ?_⟩
      rw [significant_code]
      rcases letter with rfl | rfl <;> rfl
    | cons d ds =>
      apply whole
      rw [written, List.append_cons, List.append_cons, List.append_cons, List.append_cons,
        List.getLast?_append_of_ne_nil _ (by simp)]
      exact last_not_blank fun c member => free c (by simp [List.mem_cons.mp member])

/-! ## Rows without the blanks around them -/

/-- A row that does not end with spaces is written with no blank at its end but the one of a code,
and reads back without it. -/
theorem exists_core {row : List Lexeme} (plain : PlainRow row) (readable : Readable row)
    {before : Option Kind} (first : before ≠ some (.delim "\\")) {last : Lexeme}
    (ends : row.getLast? = some last) (other : ∀ run, last ≠ .token (.whitespace run)) :
    ∃ core back, Core (writeRow before row) core back (row.map Lexeme.settled) := by
  induction row generalizing before with
  | nil => cases ends
  | cons lexeme row ih =>
    obtain ⟨valid, own_ends, later⟩ := readable
    obtain ⟨piece, rest, spells, chars⟩ := plain lexeme List.mem_cons_self
    rw [writeRow, List.append_assoc]
    cases row with
    | nil =>
      have same : lexeme = last := Option.some.inj ends
      rw [← same] at other
      obtain ⟨core, back, own⟩ := spells.write_core chars other
      rw [writeRow, List.append_nil]
      refine ⟨_, back, own.prepend (lexeme.gap before) ?_⟩
      rw [significant_gap first, own.read]
      rfl
    | cons next row =>
      rw [List.getLast?_cons_cons] at ends
      have plain_later : PlainRow (next :: row) := fun other member =>
        plain other (List.mem_cons_of_mem _ member)
      obtain ⟨core, back, own⟩ := ih plain_later later (Lexeme.kindBefore_ne_backslash valid) ends
      have read : significant (lexeme.write ++ core) = lexeme.settled :: significant core :=
        significant_write lexeme valid (own.endsBefore valid own_ends)
      refine ⟨_, back, (own.prepend lexeme.write read).prepend (lexeme.gap before) ?_⟩
      rw [significant_gap first, read, own.read]
      rfl

/-- Such a row that does not start with spaces either is written with no blank at its start. -/
theorem head_writeRow {row : List Lexeme} (plain : PlainRow row) {first : Lexeme}
    (starts : row.head? = some first) (other : ∀ run, first ≠ .token (.whitespace run)) :
    (writeRow none row).head?.any isBlank = false := by
  cases row with
  | nil => cases starts
  | cons lexeme row =>
    have same : lexeme = first := Option.some.inj starts
    rw [← same] at other
    obtain ⟨piece, rest, spells, chars⟩ := plain lexeme List.mem_cons_self
    have text : writeRow none (lexeme :: row) = lexeme.write ++ writeRow lexeme.kindBefore row := by
      rw [writeRow, List.append_assoc]
      rfl
    rw [text]
    rcases spells.head_write (writeRow lexeme.kindBefore row) with head | head
    · rw [head]
      cases found : piece.head? with
      | none => rfl
      | some c => exact spells.free_of_blanks chars other c (List.mem_of_mem_head? found)
    · rw [head]
      rfl

/-! ## The written text -/

theorem isKept_of_plain {c : Char} (plain : isPlain c) : isKept c = true := by
  rw [isPlain_iff] at plain
  rw [isKept_iff]
  omega

theorem Spells.write_kept {piece rest : List Char} {lexeme : Lexeme}
    (spells : Spells piece lexeme rest) (chars : piece.all isPlain) :
    lexeme.write.all isKept := by
  have kept {cs : List Char} (plain : cs.all isPlain) : cs.all isKept :=
    all_isKept_of (fun _ => isKept_of_plain) plain
  have hex (n : Nat) : (writeHex n).all isKept := by
    refine List.all_eq_true.mpr fun c member => ?_
    have digit := List.all_eq_true.mp (all_writeHex n) c member
    rw [isHexDigit_iff] at digit
    refine isKept_of_plain ((isPlain_iff c).mpr ?_)
    omega
  rcases spells.write_cases with
    same | ⟨first, last, rfl⟩ | ⟨numeral, marker, tail, rfl, -, -, -, written⟩
  · rw [same]
    exact kept chars
  · change ("U+".toList ++ writeHex first ++
      if first = last then [] else '-' :: writeHex last).all isKept
    rw [List.all_append, List.all_append, hex first]
    split
    next => rfl
    next => rw [List.all_cons, hex last]; rfl
  · rw [List.all_append, Bool.and_eq_true, List.all_cons, Bool.and_eq_true] at chars
    rw [written, List.all_append, kept chars.1]
    simp only [List.all_cons, kept chars.2.2]
    rfl

theorem writeRow_kept {row : List Lexeme} (plain : PlainRow row)
    (valid : ∀ lexeme ∈ row, lexeme.Valid) {before : Option Kind}
    (first : before ≠ some (.delim "\\")) : (writeRow before row).all isKept := by
  induction row generalizing before with
  | nil => rfl
  | cons lexeme row ih =>
    rw [PlainRow, List.forall_mem_cons] at plain
    rw [List.forall_mem_cons] at valid
    obtain ⟨⟨piece, rest, spells, chars⟩, later⟩ := plain
    have gap : (lexeme.gap before).all isKept := by
      rcases Lexeme.gap_cases first lexeme with gap | ⟨gap, -⟩ <;> rw [gap] <;> rfl
    rw [writeRow, List.all_append, List.all_append, gap, spells.write_kept chars,
      ih later valid.2 (Lexeme.kindBefore_ne_backslash valid.1)]
    rfl

theorem PlainRow.allClosed {row : List Lexeme} (plain : PlainRow row) :
    Component.AllClosed row := by
  intro token member
  obtain ⟨piece, rest, spells, -⟩ := plain _ member
  generalize same : Lexeme.token token = lexeme at spells
  cases spells <;> cases same <;> rfl

theorem PlainRow.comment_not_mem {row : List Lexeme} (plain : PlainRow row) :
    .comment ∉ row := by
  intro member
  obtain ⟨piece, rest, spells, -⟩ := plain _ member
  exact spells.ne_comment rfl

theorem PlainRow.blank {row : List Lexeme} (plain : PlainRow row) {run : String}
    (member : .token (.whitespace run) ∈ row) : run.toList.all isBlank := by
  obtain ⟨piece, rest, spells, -⟩ := plain _ member
  have valid : run.toList ≠ [] ∧ run.toList.all isSpace := spells.valid
  refine List.all_eq_true.mpr fun c space => ?_
  have own := List.all_eq_true.mp valid.2 c space
  rw [isSpace_iff] at own
  simp only [isBlank, Bool.or_eq_true, Bool.and_eq_true, decide_eq_true_eq, beq_iff_eq]
  omega

/-- A plain row that neither starts nor ends with spaces is written, without the blanks around it,
as a text that reads as the row. -/
theorem significant_trim {row : List Lexeme} (plain : PlainRow row) (apart : Apart row)
    (starts : ∀ first, row.head? = some first → first.isWhitespace = false)
    (ends : ∀ last, row.getLast? = some last → last.isWhitespace = false) :
    significant (trim (writeRow none row)) = row.map Lexeme.settled ∧
      (trim (writeRow none row)).all isKept := by
  cases row with
  | nil =>
    refine ⟨?_, rfl⟩
    change significant [] = []
    exact significant_nil
  | cons lexeme row =>
    have other {lexeme : Lexeme} (spaceless : lexeme.isWhitespace = false) :
        ∀ run, lexeme ≠ .token (.whitespace run) := by
      rintro run rfl
      cases spaceless
    have first : (none : Option Kind) ≠ some (.delim "\\") := by simp
    have found := List.getLast?_eq_some_getLast (List.cons_ne_nil lexeme row)
    obtain ⟨core, back, written, blank, solid, -, read⟩ :=
      exists_core plain (readable_of_apart apart) first found (other (ends _ found))
    have head := head_writeRow plain rfl (other (starts lexeme rfl))
    have whole : trim (writeRow none (lexeme :: row)) = core := by
      rw [written, trim_append_blanks core blank]
      refine trim_solid ⟨?_, solid⟩
      cases core with
      | nil => rfl
      | cons c cs =>
        rw [written] at head
        exact head
    have kept := writeRow_kept plain apart.valid first
    rw [written, List.all_append, Bool.and_eq_true] at kept
    rw [whole]
    exact ⟨read, kept.1⟩

/-! ## Pieces -/

/-- What is written for the components of a text. -/
def rewritten (text : List Char) : List Char :=
  (writeTrimmed (components text)).toList

/-- The components of a plain text with balanced brackets, and those of the text that is written for
them. -/
theorem exists_rewritten {text : List Char} (plain : Plain text) (balanced : Balanced 0 text) :
    ∃ lead row trail, significant text = spaceRuns lead ++ (row ++ spaceRuns trail) ∧
      components text = spaceLeaves lead ++ (Component.nested row ++ spaceLeaves trail) ∧
      AllBlank lead ∧ AllBlank trail ∧
      significant (rewritten text) = row.map Lexeme.settled ∧
      components (rewritten text) = Component.settleAll (Component.nested row) ∧
      (rewritten text).all isKept := by
  have rows := plainRow_significant plain
  have apart := apart_of_plain plain
  have closes := closes_of_balanced plain balanced
  obtain ⟨lead, row, trail, whole, starts, ends⟩ := exists_middle (significant text)
  rw [whole] at rows apart closes
  have before : AllBlank lead := fun run member =>
    rows.blank (List.mem_append_left _ (List.mem_map.mpr ⟨run, member, rfl⟩))
  have after : AllBlank trail := fun run member =>
    rows.blank (List.mem_append_right _ (List.mem_append_right _
      (List.mem_map.mpr ⟨run, member, rfl⟩)))
  have own : PlainRow row := fun lexeme member =>
    rows lexeme (List.mem_append_right _ (List.mem_append_left _ member))
  have closed : Component.Closes [] row := closes_margins.mp closes
  have nested : Component.nested (spaceRuns lead ++ (row ++ spaceRuns trail)) =
      spaceLeaves lead ++ (Component.nested row ++ spaceLeaves trail) :=
    nested_margins own.comment_not_mem closed
  have row_of_nested := Component.lexemesOf_nested own.comment_not_mem closed
  have text_eq : rewritten text = trim (writeRow none row) := by
    unfold rewritten
    rw [components, whole, nested, writeTrimmed_margins before after]
    unfold writeTrimmed writeComponents trimmed
    rw [String.toList_ofList, String.toList_ofList, Component.writeFrom_eq_writeRow _
      (by rw [row_of_nested]; exact own.allClosed), row_of_nested]
  obtain ⟨read, kept⟩ := significant_trim own apart.of_append_right.of_append_left starts ends
  refine ⟨lead, row, trail, whole, by rw [components, whole, nested], before, after,
    by rw [text_eq, read], ?_, by rw [text_eq, kept]⟩
  calc components (rewritten text)
      = Component.nested ((Component.lexemesOf (Component.nested row)).map Lexeme.settled) := by
        rw [components, text_eq, read, row_of_nested]
    _ = Component.settleAll (Component.nested row) := by
        rw [← Component.lexemesOf_settle, Component.nested_lexemesOf]

/-- A plain text and the text written for its components are cut into the same pieces. -/
theorem cutPieces_rewritten {text : List Char} (plain : Plain text) (balanced : Balanced 0 text)
    {separates : Component Unit → Bool}
    (same : ∀ component : Component Unit, separates component.settle = separates component)
    (joins : ∀ run, separates (.leaf () (.whitespace run)) = false) :
    cutPieces separates (components (rewritten text)) = cutPieces separates (components text) := by
  obtain ⟨lead, row, trail, -, before, blank, more, -, after, -⟩ := exists_rewritten plain balanced
  rw [before, after, cutPieces_margins joins blank more, cutPieces_settle same]

/-- The text that is written has no number of too many digits, when the text has none. -/
theorem overlong?_rewritten {text : List Char} (plain : Plain text) (balanced : Balanced 0 text)
    (short : overlong? text = none) : overlong? (rewritten text) = .none := by
  obtain ⟨lead, row, trail, before, -, -, -, after, -⟩ := exists_rewritten plain balanced
  rw [overlong?_eq_none_iff, before, noneOverlong_append, noneOverlong_append] at short
  rw [overlong?_eq_none_iff, after]
  intro lexeme member
  obtain ⟨old, old_member, rfl⟩ := List.mem_map.mp member
  rw [Lexeme.overlong_settled]
  exact short.2.1 old old_member

/-! ## Texts that are written and read back -/

/-- A text with one kind of line end, whose lexemes close all groups that they open and are read
back where they are written. -/
structure ReadsBack (text : List Char) : Prop where
  rows : PlainRow (significant text)
  apart : Apart (significant text)
  nested : Component.lexemesOf (components text) = significant text
  kept : text.all isKept

/-- A plain text with balanced brackets is read back. -/
theorem readsBack_of_plain {text : List Char} (plain : Plain text) (balanced : Balanced 0 text) :
    ReadsBack text where
  rows := plainRow_significant plain
  apart := apart_of_plain plain
  nested := Component.lexemesOf_nested (plainRow_significant plain).comment_not_mem
    (closes_of_balanced plain balanced)
  kept := all_isKept_of (fun _ => isKept_of_plain) plain.chars

namespace ReadsBack

section Texts

variable {text : List Char} (back : ReadsBack text)
include back

theorem writeFrom_eq :
    Component.writeFrom none (components text) = writeRow none (significant text) := by
  rw [Component.writeFrom_eq_writeRow _ (by rw [back.nested]; exact back.rows.allClosed),
    back.nested]

theorem significant_written :
    significant (Component.writeFrom none (components text)) =
      (significant text).map Lexeme.settled := by
  rw [back.writeFrom_eq, significant_writeRow back.apart (by simp)]

theorem kept_written : (Component.writeFrom none (components text)).all isKept := by
  rw [back.writeFrom_eq]
  exact writeRow_kept back.rows back.apart.valid (by simp)

/-- The components that are read back are the settled ones. -/
theorem components_written :
    components (Component.writeFrom none (components text)) =
      Component.settleAll (components text) := by
  have settled := Component.lexemesOf_settle (components text)
  rw [back.nested] at settled
  rw [components, back.significant_written, ← settled, Component.nested_lexemesOf]

theorem overlong?_written :
    overlong? (Component.writeFrom none (components text)) = overlong? text := by
  rw [overlong?, back.significant_written, overlong?, List.findSome?_map]
  congr 1
  funext lexeme
  exact lexeme.overlong_settled

end Texts

section Values

variable {value : String} (back : ReadsBack value.toList)
include back

theorem normalized_eq : normalized value.toList = value.toList :=
  normalized_of_kept back.kept

theorem normalized_written :
    normalized (writeComponents (components value.toList)).toList =
      Component.writeFrom none (components value.toList) := by
  rw [writeComponents, String.toList_ofList, normalized_of_kept back.kept_written]

/-- What is written for a value is cut at its commas like the value. -/
theorem commaPieces_written :
    Value.commaPieces (writeComponents (components value.toList)) = Value.commaPieces value := by
  rw [commaPieces_eq, commaPieces_eq, back.normalized_written, back.normalized_eq,
    back.overlong?_written, back.components_written,
    cutPieces_settle (Component.isDelim_settle ",")]

/-- What is written for a value is cut at its spaces like the value. -/
theorem spacePieces_written :
    Value.spacePieces (writeComponents (components value.toList)) = Value.spacePieces value := by
  rw [spacePieces_eq, spacePieces_eq, back.normalized_written, back.normalized_eq,
    back.overlong?_written, back.components_written, cutPieces_settle Component.isWhitespace_settle]

theorem items_written :
    Value.items (writeComponents (components value.toList)) = Value.items value := by
  rw [Value.items, back.commaPieces_written, Value.items]

end Values

end ReadsBack

end Swatch.Css
