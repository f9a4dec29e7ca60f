import Mathlib.Data.List.Chain
import Swatch.Proofs.Css.Margins
import Swatch.Proofs.Css.Settling
import Swatch.Proofs.Outcome

/-!
# Rows that stay as they are

Two lexemes stand beside each other when nothing is put between them and they are read apart,
whatever follows them (`Lexeme.Beside`). A row of lexemes in which all neighbours do (`Steady`) is
written lexeme by lexeme and is read back (`Steady.significant`). Texts that are written for one
component each may then be joined by commas and are cut apart again (`items_join`).
-/

namespace Swatch.Css

open Text

/-! ## Neighbours -/

namespace Lexeme

/-- Nothing is put between the two lexemes. -/
def Meets (lexeme next : Lexeme) : Prop :=
  ∀ kind, lexeme.kindBefore = some kind → next.kind ∉ kind.clashing

/-- Nothing is put between the two lexemes, and they are not read together. -/
def Beside (lexeme next : Lexeme) : Prop :=
  lexeme.Meets next ∧ ∀ row, ¬lexeme.Fuses (next :: row)

/-- The lexeme reads back, it is no number of too many digits, and it is written without characters
that are replaced before a text is read. -/
structure Lasts (lexeme : Lexeme) : Prop where
  valid : lexeme.Valid
  short : lexeme.overlong? = none
  kept : lexeme.write.all isKept

theorem gap_eq_nil {before : Option Kind} {next : Lexeme} (plain : before ≠ some (.delim "\\"))
    (free : ∀ kind, before = some kind → next.kind ∉ kind.clashing) : next.gap before = [] := by
  rcases gap_cases plain next with gap | ⟨gap, -⟩
  · cases before with
    | none => cases gap
    | some kind =>
      have backslash : kind ≠ .delim "\\" := fun same => plain (by rw [same])
      cases next with
      | closing bracket => rfl
      | _ => simp [Lexeme.gap, free kind rfl, backslash]
  · exact gap

/-- Behind a group and behind a closing bracket there may be anything. -/
theorem meets_of_kindBefore {lexeme : Lexeme} (free : lexeme.kindBefore = none) (next : Lexeme) :
    lexeme.Meets next := by
  intro kind same
  rw [free] at same
  cases same

theorem not_fuses_of_kind {lexeme next : Lexeme} (space : next.isWhitespace = false)
    (sign : ∀ text ∈ ["%", "-", ">", "+"], next.kind ≠ .delim text) (row : List Lexeme) :
    ¬lexeme.Fuses (next :: row) := by
  rintro (⟨-, more, -, same⟩ | ⟨-, same⟩ | ⟨-, same⟩ | ⟨-, same⟩ | ⟨-, same, -⟩)
  · rw [same] at space
    cases space
  · exact sign _ (by simp) same
  · exact sign _ (by simp) same
  · exact sign _ (by simp) same
  · exact sign _ (by simp) same

/-- A comma may stand behind anything. -/
theorem beside_comma (lexeme : Lexeme) : lexeme.Beside (.token (.delim ",")) := by
  refine ⟨fun kind _ => ?_, not_fuses_of_kind rfl (by simp [kind, Kind.ofToken])⟩
  change Kind.delim "," ∉ kind.clashing
  unfold Kind.clashing
  split <;> simp [Kind.names, Kind.numerals]

/-- A closing bracket may stand behind anything. -/
theorem beside_closing (lexeme : Lexeme) (bracket : Bracket) : lexeme.Beside (.closing bracket) :=
  ⟨fun kind _ => other_not_mem_clashing kind, not_fuses_of_kind rfl (by simp [kind])⟩

/-- Behind spaces there may be anything but spaces. -/
theorem space_beside_iff {run : String} {next : Lexeme} :
    (Lexeme.token (.whitespace run)).Beside next ↔ next.isWhitespace = false := by
  constructor
  · rintro ⟨-, apart⟩
    by_contra space
    rw [Bool.not_eq_false] at space
    obtain ⟨more, same⟩ := isWhitespace_iff.mp space
    exact apart [] (.inl ⟨run, more, rfl, same⟩)
  · intro other
    refine ⟨fun kind same => ?_, fun row => ?_⟩
    · rw [← Option.some.inj same]
      exact List.not_mem_nil
    · rintro (⟨-, more, -, rfl⟩ | ⟨kind, -⟩ | ⟨kind | kind, -⟩ | ⟨kind, -⟩ | ⟨kind | kind, -⟩)
      · cases other
      all_goals cases kind

end Lexeme

/-! ## Steady rows -/

/-- All lexemes of the row last, and neighbours stand beside each other. -/
structure Steady (row : List Lexeme) : Prop where
  lasts : ∀ lexeme ∈ row, lexeme.Lasts
  beside : row.IsChain Lexeme.Beside

/-- The lexemes of a row written one after another. -/
def rowText (row : List Lexeme) : List Char :=
  row.flatMap Lexeme.write

theorem rowText_cons (lexeme : Lexeme) (row : List Lexeme) :
    rowText (lexeme :: row) = lexeme.write ++ rowText row :=
  List.flatMap_cons

theorem rowText_append (first second : List Lexeme) :
    rowText (first ++ second) = rowText first ++ rowText second :=
  List.flatMap_append

section Rows

variable {row first second : List Lexeme}

/-- Where nothing is put between neighbours, a row is its lexemes written one after another. -/
theorem writeRow_of_meets (valid : ∀ lexeme ∈ row, lexeme.Valid) (meets : row.IsChain Lexeme.Meets)
    {before : Option Kind} (plain : before ≠ some (.delim "\\"))
    (first : ∀ lexeme ∈ row.head?, ∀ kind, before = some kind → lexeme.kind ∉ kind.clashing) :
    writeRow before row = rowText row := by
  induction row generalizing before with
  | nil => rfl
  | cons lexeme row ih =>
    rw [List.forall_mem_cons] at valid
    rw [List.isChain_cons] at meets
    rw [writeRow, Lexeme.gap_eq_nil plain (first lexeme rfl),
      ih valid.2 meets.2 (Lexeme.kindBefore_ne_backslash valid.1) meets.1, List.nil_append,
      rowText_cons]

namespace Steady

theorem nil : Steady [] :=
  ⟨fun _ member => by (cases member), .nil⟩

theorem singleton {lexeme : Lexeme} (lasts : lexeme.Lasts) : Steady [lexeme] :=
  ⟨by simpa using lasts, .singleton lexeme⟩

theorem cons {lexeme : Lexeme} (lasts : lexeme.Lasts)
    (first : ∀ next ∈ row.head?, lexeme.Beside next) (steady : Steady row) :
    Steady (lexeme :: row) :=
  ⟨List.forall_mem_cons.mpr ⟨lasts, steady.lasts⟩, List.isChain_cons.mpr ⟨first, steady.beside⟩⟩

theorem of_cons {lexeme : Lexeme} (steady : Steady (lexeme :: row)) :
    lexeme.Lasts ∧ (∀ next ∈ row.head?, lexeme.Beside next) ∧ Steady row := by
  obtain ⟨lasts, beside⟩ := steady
  rw [List.forall_mem_cons] at lasts
  rw [List.isChain_cons] at beside
  exact ⟨lasts.1, beside.1, lasts.2, beside.2⟩

theorem append (steady : Steady first) (steady' : Steady second)
    (between : ∀ last ∈ first.getLast?, ∀ next ∈ second.head?, last.Beside next) :
    Steady (first ++ second) :=
  ⟨List.forall_mem_append.mpr ⟨steady.lasts, steady'.lasts⟩,
    List.isChain_append.mpr ⟨steady.beside, steady'.beside, between⟩⟩

variable (steady : Steady row)
include steady

theorem writeRow_eq : writeRow none row = rowText row :=
  writeRow_of_meets (fun lexeme member => (steady.lasts lexeme member).valid)
    (steady.beside.imp fun _ _ beside => beside.1) (by simp) fun _ _ _ same => by cases same

theorem apart : Apart row := by
  induction row with
  | nil => trivial
  | cons lexeme row ih =>
    obtain ⟨lasts, first, rest⟩ := steady.of_cons
    refine ⟨lasts.valid, ?_, ih rest⟩
    cases row with
    | nil => exact id
    | cons next row => exact (first next rfl).2 row

/-- A steady row reads back. -/
theorem significant : significant (rowText row) = row.map Lexeme.settled := by
  rw [← steady.writeRow_eq]
  exact significant_writeRow steady.apart (by simp)

theorem normalized_eq : normalized (rowText row) = rowText row := by
  apply normalized_of_kept
  rw [rowText, List.all_flatMap, List.all_eq_true]
  exact fun lexeme member => (steady.lasts lexeme member).kept

theorem overlong?_eq : overlong? (rowText row) = none := by
  rw [overlong?_eq_none_iff, steady.significant]
  intro lexeme member
  obtain ⟨original, own, rfl⟩ := List.mem_map.mp member
  rw [Lexeme.overlong_settled]
  exact (steady.lasts original own).short

end Steady

end Rows

/-! ## Components of steady rows -/

section Components

variable {found : List (Component Unit)} (steady : Steady (Component.lexemesOf found))
include steady

/-- The text of the components. -/
theorem writeFrom_of_steady :
    Component.writeFrom none found = rowText (Component.lexemesOf found) := by
  have closed : Component.AllClosed (Component.lexemesOf found) := by
    intro token member
    have valid := (steady.lasts _ member).valid
    cases token with
    | string value closed => exact valid.elim
    | _ => rfl
  rw [Component.writeFrom_eq_writeRow found closed, steady.writeRow_eq]

theorem components_of_steady :
    components (rowText (Component.lexemesOf found)) = Component.settleAll found := by
  rw [components, steady.significant, ← Component.lexemesOf_settle, Component.nested_lexemesOf]

theorem pieces_of_steady {separates : Component Unit → Bool}
    (same : ∀ component : Component Unit, separates component.settle = separates component) :
    cutPieces separates (components (rowText (Component.lexemesOf found))) =
      cutPieces separates found := by
  rw [components_of_steady steady, cutPieces_settle same]

end Components

/-! ## Texts of one component -/

/-- The text is written for one component, which separates nothing. -/
structure IsSingle (text : String) (component : Component Unit) : Prop where
  steady : Steady component.lexemes
  written : text.toList = rowText component.lexemes
  solid : Solid text.toList
  some : text ≠ ""
  space : component.isWhitespace = false
  comma : component.isDelim "," = false

theorem IsSingle.writeTrimmed_eq {text : String} {component : Component Unit}
    (single : IsSingle text component) : writeTrimmed [component] = text := by
  have row : Component.lexemesOf [component] = component.lexemes := by simp
  have steady : Steady (Component.lexemesOf [component]) := row ▸ single.steady
  unfold writeTrimmed writeComponents trimmed
  rw [String.toList_ofList, writeFrom_of_steady steady, row, ← single.written,
    trim_solid single.solid, String.ofList_toList]

/-- A text of one component is not cut at spaces. -/
theorem IsSingle.spacePieces_eq {text : String} {component : Component Unit}
    (single : IsSingle text component) : Value.spacePieces text = .ok [text] := by
  have row : Component.lexemesOf [component] = component.lexemes := by simp
  have steady : Steady (Component.lexemesOf [component]) := row ▸ single.steady
  have whole : text.toList = rowText (Component.lexemesOf [component]) := row ▸ single.written
  rw [Css.spacePieces_eq, whole, steady.normalized_eq, steady.overlong?_eq]
  refine congrArg Except.ok ?_
  rw [pieces_of_steady steady Component.isWhitespace_settle, cutPieces,
    List.splitOnP_eq_singleton (by simpa using single.space)]
  simp [single.writeTrimmed_eq, single.some]

/-! ## Texts joined by commas -/

/-- Components with a comma and a space between two of them. -/
def listed : List (Component Unit) → List (Component Unit)
  | [] => []
  | [component] => [component]
  | component :: rest => component :: signLeaf "," :: spaceLeaf :: listed rest

section Joined

variable {texts : List String} {parts : List (Component Unit)}

theorem lasts_comma : (Lexeme.token (.delim ",")).Lasts :=
  ⟨⟨',', rfl, by decide⟩, rfl, by decide⟩

theorem lasts_space : (Lexeme.token (.whitespace " ")).Lasts :=
  ⟨⟨by decide, by decide⟩, rfl, by decide⟩

theorem comma_beside_space : (Lexeme.token (.delim ",")).Beside (.token (.whitespace " ")) :=
  ⟨fun kind _ => other_not_mem_clashing kind, fun row => by
    simp [Lexeme.Fuses, Lexeme.kind, Kind.ofToken]⟩

/-- The first lexeme of a component is a space only if the component is one. -/
theorem isWhitespace_of_head {component : Component Unit} (other : component.isWhitespace = false)
    (row : List Lexeme) :
    ∀ lexeme ∈ (component.lexemes ++ row).head?, lexeme.isWhitespace = false := by
  intro lexeme first
  cases component with
  | leaf mark token =>
    rw [Component.lexemes_leaf, List.singleton_append, List.head?_cons,
      Option.mem_some_iff] at first
    rw [← first]
    exact other
  | group mark opener content =>
    rw [Component.lexemes_group, List.cons_append, List.head?_cons, Option.mem_some_iff] at first
    rw [← first]
    rfl

theorem lexemesOf_listed (component second : Component Unit) (rest : List (Component Unit)) :
    Component.lexemesOf (listed (component :: second :: rest)) =
      component.lexemes ++ .token (.delim ",") :: .token (.whitespace " ") ::
        Component.lexemesOf (listed (second :: rest)) := by
  simp [listed, signLeaf, spaceLeaf]

theorem exists_lexemesOf_listed (component : Component Unit) (rest : List (Component Unit)) :
    ∃ row, Component.lexemesOf (listed (component :: rest)) = component.lexemes ++ row := by
  cases rest with
  | nil => exact ⟨[], by simp [listed]⟩
  | cons second rest => exact ⟨_, lexemesOf_listed component second rest⟩

/-- Between commas texts of one component each keep apart. -/
theorem steady_listed (singles : List.Forall₂ IsSingle texts parts) :
    Steady (Component.lexemesOf (listed parts)) := by
  induction singles with
  | nil => exact Component.lexemesOf_nil (α := Unit) ▸ Steady.nil
  | @cons text component texts parts own others ih =>
    cases others with
    | nil =>
      have row : Component.lexemesOf (listed [component]) = component.lexemes := by simp [listed]
      exact row ▸ own.steady
    | @cons text' second texts parts own' others =>
      obtain ⟨row, starts⟩ := exists_lexemesOf_listed second parts
      rw [lexemesOf_listed]
      refine own.steady.append (.cons lasts_comma ?_ (.cons lasts_space ?_ ih)) ?_
      · intro next first
        rw [← Option.some.inj first]
        exact comma_beside_space
      · intro next first
        rw [starts] at first
        exact Lexeme.space_beside_iff.mpr (isWhitespace_of_head own'.space row next first)
      · intro last _ next first
        rw [← Option.some.inj first]
        exact last.beside_comma

theorem rowText_listed (singles : List.Forall₂ IsSingle texts parts) :
    (", ".intercalate texts).toList = rowText (Component.lexemesOf (listed parts)) := by
  rw [String.toList_intercalate]
  induction singles with
  | nil =>
    rw [listed, Component.lexemesOf_nil]
    rfl
  | @cons text component texts parts own others ih =>
    cases others with
    | nil =>
      rw [listed, Component.lexemesOf_cons, Component.lexemesOf_nil, List.append_nil, ← own.written]
      simp
    | @cons text' second texts parts own' others =>
      rw [lexemesOf_listed, rowText_append, rowText_cons, rowText_cons, ← ih, ← own.written]
      rfl

/-- Components with commas between them are cut apart at the commas. -/
theorem splitOnP_listed {component : Component Unit} {rest : List (Component Unit)}
    (plain : ∀ part ∈ component :: rest, part.isDelim "," = false) (lead : List (Component Unit))
    (before : ∀ part ∈ lead, part.isDelim "," = false) :
    (lead ++ listed (component :: rest)).splitOnP (·.isDelim ",") =
      (lead ++ [component]) :: rest.map fun part => [spaceLeaf, part] := by
  have first : ∀ part ∈ lead ++ [component], part.isDelim "," = false := by
    intro part member
    rcases List.mem_append.mp member with member | member
    · exact before part member
    · rw [List.mem_singleton.mp member]
      exact plain component List.mem_cons_self
  induction rest generalizing component lead with
  | nil => exact List.splitOnP_eq_singleton first
  | cons second rest ih =>
    have cut : lead ++ listed (component :: second :: rest) =
        (lead ++ [component]) ++ signLeaf "," :: ([spaceLeaf] ++ listed (second :: rest)) := by
      simp [listed]
    have own : ∀ part ∈ [spaceLeaf], part.isDelim "," = false := by
      intro part member
      rw [List.mem_singleton.mp member]
      rfl
    have later : ∀ part ∈ second :: rest, part.isDelim "," = false := fun part member =>
      plain part (List.mem_cons_of_mem _ member)
    have last : ∀ part ∈ [spaceLeaf] ++ [second], part.isDelim "," = false := by
      rw [List.forall_mem_append]
      exact ⟨own, fun part member => by
        rw [List.mem_singleton.mp member]
        exact later second List.mem_cons_self⟩
    rw [cut, List.splitOnP_append_cons_of_forall_mem first (signLeaf ",") rfl,
      ih later [spaceLeaf] own last]
    rfl

/-- The pieces between the commas are the texts. -/
theorem cutPieces_listed (singles : List.Forall₂ IsSingle texts parts) :
    cutPieces (·.isDelim ",") (listed parts) = texts := by
  have each {texts : List String} {parts : List (Component Unit)}
      (singles : List.Forall₂ IsSingle texts parts) :
      parts.map (fun part => writeTrimmed [spaceLeaf, part]) = texts ∧
        (∀ part ∈ parts, part.isDelim "," = false) ∧ ∀ text ∈ texts, text ≠ "" := by
    induction singles with
    | nil => exact ⟨rfl, by simp, by simp⟩
    | cons own others ih =>
      have blank : " ".toList.all isBlank := by decide
      refine ⟨?_, List.forall_mem_cons.mpr ⟨own.comma, ih.2.1⟩,
        List.forall_mem_cons.mpr ⟨own.some, ih.2.2⟩⟩
      rw [List.map_cons, ih.1]
      exact congrArg (· :: _) ((writeTrimmed_cons_space blank _).trans own.writeTrimmed_eq)
  obtain ⟨written, plain, nonempty⟩ := each singles
  have solid : texts.filter (· != "") = texts :=
    List.filter_eq_self.mpr fun text member => by simpa using nonempty text member
  cases singles with
  | nil => rfl
  | @cons text component texts parts own others =>
    have cut := splitOnP_listed plain [] (by simp)
    rw [List.nil_append, List.nil_append] at cut
    rw [cutPieces, cut, List.map_cons, List.map_map, own.writeTrimmed_eq]
    have rest := (each others).1
    exact (congrArg (fun found => (text :: found).filter (· != "")) rest).trans solid

/-- Texts of one component each that are joined by commas are the items of the value. -/
theorem items_join (singles : List.Forall₂ IsSingle texts parts) :
    Value.items (", ".intercalate texts) = .ok texts := by
  have steady := steady_listed singles
  have commas : Value.commaPieces (", ".intercalate texts) = .ok texts := by
    rw [commaPieces_eq, rowText_listed singles, steady.normalized_eq, steady.overlong?_eq]
    refine congrArg Except.ok ?_
    rw [pieces_of_steady steady (Component.isDelim_settle ","), cutPieces_listed singles]
  have spaces : texts.mapM Value.spacePieces = .ok (texts.map ([·])) := by
    clear commas steady
    induction singles with
    | nil => rfl
    | cons own others ih =>
      rw [List.mapM_cons, own.spacePieces_eq, ih]
      rfl
  rw [Value.items, commas, Outcome.ok_bind, spaces, Outcome.ok_bind]
  exact congrArg Except.ok (by simp [← List.flatMap_def])

end Joined

/-- A text of one component is one piece. -/
theorem IsSingle.items_eq {text : String} {component : Component Unit}
    (single : IsSingle text component) : Value.items text = .ok [text] := by
  have alone : Value.items (", ".intercalate [text]) = .ok [text] :=
    items_join (.cons single .nil)
  exact alone

end Swatch.Css
