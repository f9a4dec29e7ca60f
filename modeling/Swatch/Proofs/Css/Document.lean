import Swatch.Proofs.Css.Delimited

/-!
# Documents and their text

A document is a tree of style rules, rules that start with an at sign, and declarations, nested to
any depth. What may stand in a block depends on the place of the block, and so does its type: the
outermost level and the grouping rules in it hold rules only, every other block holds anything.
Beside the well-formed items there are runs that are none: `Item.junk` ends with a semicolon, and
`Content.dangling` ends a block or the text.

`Content.text` writes a document out, and `components_text` says what the text reads as.
-/

namespace Swatch.Css

/-! ## Names -/

/-- A name of ASCII characters that needs no escapes. -/
structure Identifier where
  name : String
  starts : startsName name.toList = true
  plain : name.toList.all (fun c => isNameChar c && c.toNat < 0x80) = true

/-- A word of ASCII letters. -/
structure Word where
  name : String
  nonempty : name ≠ ""
  letters : name.toList.all Text.isAsciiLetter = true

theorem Word.starts (word : Word) : startsName word.name.toList = true := by
  have letters := word.letters
  cases spelled : word.name.toList with
  | nil => exact (word.nonempty (String.toList_eq_nil_iff.mp spelled)).elim
  | cons c cs =>
    rw [spelled, List.all_cons, Bool.and_eq_true] at letters
    exact startsName_cons_iff.mpr (.inl (by simp [isNameStart, letters.1]))

theorem Word.plain (word : Word) :
    word.name.toList.all (fun c => isNameChar c && c.toNat < 0x80) = true := by
  rw [List.all_eq_true]
  intro c member
  have letter := (Text.isAsciiLetter_iff c).mp (List.all_eq_true.mp word.letters c member)
  rw [Bool.and_eq_true, isNameChar_iff, decide_eq_true_eq]
  omega

/-- The word as a name. -/
def Word.identifier (word : Word) : Identifier :=
  ⟨word.name, word.starts, word.plain⟩

/-- Names with a space before each. -/
def spaced (names : List Identifier) : String :=
  String.join (names.map fun name => " " ++ name.name)

/-- The selector of a style rule: a word, perhaps with a colon and another word, and words behind
it. -/
structure Selector where
  element : Word
  state : Option Word
  descendants : List Word

/-- A selector as text. -/
def Selector.text (selector : Selector) : String :=
  match selector.state with
  | none => selector.element.name ++ spaced (selector.descendants.map Word.identifier)
  | some state =>
    selector.element.name ++ ":" ++ state.name ++
      spaced (selector.descendants.map Word.identifier)

/-! ## Trees -/

/-- What the items of a list may be. -/
inductive Place where
  /-- Rules only. -/
  | rules
  /-- Declarations and rules. -/
  | block
  deriving DecidableEq, Repr

/-- A rule of this name groups what the place around it may hold. -/
def isGrouping (keyword : Identifier) : Bool :=
  groupingNames.contains (Text.asciiLowered keyword.name)

/-- The place in the block of a rule that starts with an at sign. -/
def Place.inside (place : Place) (keyword : Identifier) : Place :=
  if isGrouping keyword then place else .block

mutual

/-- An item of a document. -/
inductive Item : Place → Type where
  /-- A name, a colon and a value of one or more names. -/
  | declaration (name first : Identifier) (more : List Identifier) : Item .block
  /-- One or more words that are no declaration. -/
  | junk (first : Word) (more : List Word) : Item .block
  | rule {place : Place} (selector : Selector) (content : Content .block) : Item place
  | atRule {place : Place} (keyword : Identifier) (prelude : List Word)
    (content : Content (place.inside keyword)) : Item place

/-- The items of a list, and how it ends. -/
inductive Content : Place → Type where
  | done {place : Place} : Content place
  /-- One or more words without an end. -/
  | dangling {place : Place} (first : Word) (more : List Word) : Content place
  | item {place : Place} (first : Item place) (rest : Content place) : Content place

end

/-- A document: rules on the outermost level. -/
abbrev Document := Content .rules

mutual

/-- An item as text. -/
def Item.text {place : Place} : Item place → String
  | .declaration name first more => name.name ++ ":" ++ spaced (first :: more) ++ ";"
  | .junk first more => first.name ++ spaced (more.map Word.identifier) ++ ";"
  | .rule selector content => selector.text ++ " \x7b " ++ content.text ++ "\x7d"
  | .atRule keyword prelude content =>
    "@" ++ keyword.name ++ spaced (prelude.map Word.identifier) ++ " \x7b " ++ content.text ++
      "\x7d"

/-- The items of a list as text, each with a space behind it. -/
def Content.text {place : Place} : Content place → String
  | .done => ""
  | .dangling first more => first.name ++ spaced (more.map Word.identifier) ++ " "
  | .item first rest => first.text ++ " " ++ rest.text

end

/-! ## What a document says -/

/-- The selector that the declarations in a block of an at rule have. -/
def atSelector (keyword : Identifier) (prelude : List Word) : String :=
  "@" ++ keyword.name ++ spaced (prelude.map Word.identifier)

mutual

/-- The declarations of an item, inside the rule of a selector. -/
def Item.declarations {place : Place} (selector : Option String) :
    Item place → List Declaration
  | .declaration name first more => [⟨name.name, first.name ++ spaced more, selector⟩]
  | .junk _ _ => []
  | .rule inner content => content.declarations (some inner.text)
  | .atRule keyword prelude content =>
    content.declarations
      (if isGrouping keyword then selector else some (atSelector keyword prelude))

/-- The declarations of a list of items, in order. -/
def Content.declarations {place : Place} (selector : Option String) :
    Content place → List Declaration
  | .done => []
  | .dangling _ _ => []
  | .item first rest => first.declarations selector ++ rest.declarations selector

end

mutual

/-- Rules are expected where an item dangles. -/
def Item.breaks {place : Place} : Item place → Bool
  | .declaration _ _ _ => false
  | .junk _ _ => false
  | .rule _ content => content.breaks
  | .atRule _ _ content => content.breaks

/-- Rules are expected where the list, or one in it, dangles. -/
def Content.breaks {place : Place} : Content place → Bool
  | .done => false
  | .dangling _ _ => place == .rules
  | .item first rest => first.breaks || rest.breaks

end

/-! ## Components -/

/-- A name as a component. -/
def nameLeaf (name : Identifier) : Component Unit :=
  .leaf () (.ident name.name)

/-- The components of names with a space before each. -/
def spacedLeaves (names : List Identifier) : List (Component Unit) :=
  names.flatMap fun name => [spaceLeaf, nameLeaf name]

/-- The components of a selector. -/
def Selector.components (selector : Selector) : List (Component Unit) :=
  nameLeaf selector.element.identifier ::
    match selector.state with
    | none => spacedLeaves (selector.descendants.map Word.identifier)
    | some state =>
      signLeaf ":" :: nameLeaf state.identifier ::
        spacedLeaves (selector.descendants.map Word.identifier)

mutual

/-- The components of an item. -/
def Item.components {place : Place} : Item place → List (Component Unit)
  | .declaration name first more =>
    nameLeaf name :: signLeaf ":" :: (spacedLeaves (first :: more) ++ [signLeaf ";"])
  | .junk first more =>
    nameLeaf first.identifier :: (spacedLeaves (more.map Word.identifier) ++ [signLeaf ";"])
  | .rule selector content =>
    selector.components ++
      [spaceLeaf, .group () (.bracket .curly) (spaceLeaf :: content.components)]
  | .atRule keyword prelude content =>
    .leaf () (.atKeyword keyword.name) :: (spacedLeaves (prelude.map Word.identifier) ++
      [spaceLeaf, .group () (.bracket .curly) (spaceLeaf :: content.components)])

/-- The components of a list of items. -/
def Content.components {place : Place} : Content place → List (Component Unit)
  | .done => []
  | .dangling first more =>
    nameLeaf first.identifier :: (spacedLeaves (more.map Word.identifier) ++ [spaceLeaf])
  | .item first rest => first.components ++ spaceLeaf :: rest.components

end

/-! ## Reading names -/

theorem Identifier.name_ne_nil (name : Identifier) : name.name.toList ≠ [] := by
  intro empty
  have starts := name.starts
  rw [empty] at starts
  cases starts

theorem Identifier.writeIdent_name (name : Identifier) :
    writeIdent name.name.toList = name.name.toList := by
  refine writeIdent_plain name.starts ?_
  have plain := name.plain
  simp only [List.all_eq_true, Bool.and_eq_true] at plain ⊢
  exact fun c member => (plain c member).1

/-- The text ends the name before it: it starts with a space, a colon, a semicolon or a
block. -/
def closesName (rest : List Char) : Prop :=
  ∃ c cs, rest = c :: cs ∧ (c = ' ' ∨ c = ':' ∨ c = ';' ∨ c = '\x7b')

theorem significant_name (name : Identifier) {rest : List Char} (closes : closesName rest) :
    significant (name.name.toList ++ rest) =
      .token (.ident name.name) :: significant rest := by
  obtain ⟨c, cs, rfl, closes⟩ := closes
  have ends : (Lexeme.token (.ident name.name)).EndsBefore (c :: cs) := by
    rcases closes with rfl | rfl | rfl | rfl <;>
      exact ⟨rfl, by simp, fun _ => by simp, fun _ => rfl⟩
  have read := significant_write (.token (.ident name.name)) name.name_ne_nil ends
  have text : (Lexeme.token (.ident name.name)).write = name.name.toList := name.writeIdent_name
  rw [text] at read
  exact read

theorem significant_space {rest : List Char} (stops : rest.head?.any isSpace = false) :
    significant (' ' :: rest) = .token (.whitespace " ") :: significant rest :=
  significant_write (.token (.whitespace " ")) ⟨by decide, by decide⟩ stops

theorem significant_colon (rest : List Char) :
    significant (':' :: rest) = .token (.delim ":") :: significant rest :=
  significant_write (.token (.delim ":")) ⟨':', by decide, by decide⟩
    ⟨rfl, rfl, fun same => by simp at same, fun same => by simp at same⟩

theorem significant_semicolon (rest : List Char) :
    significant (';' :: rest) = .token (.delim ";") :: significant rest :=
  significant_write (.token (.delim ";")) ⟨';', by decide, by decide⟩
    ⟨rfl, rfl, fun same => by simp at same, fun same => by simp at same⟩

theorem significant_opening (rest : List Char) :
    significant ('\x7b' :: rest) = .opening (.bracket .curly) :: significant rest :=
  significant_write (.opening (.bracket .curly)) trivial trivial

theorem significant_closing (rest : List Char) :
    significant ('\x7d' :: rest) = .closing .curly :: significant rest :=
  significant_write (.closing .curly) trivial trivial

/-- A block is read when its content is. -/
theorem significant_block {inner rest : List Char} {row : List Lexeme}
    (stops : (inner ++ '\x7d' :: rest).head?.any isSpace = false)
    (read : significant (inner ++ '\x7d' :: rest) = row ++ significant ('\x7d' :: rest)) :
    significant (' ' :: '\x7b' :: ' ' :: (inner ++ '\x7d' :: rest)) =
      .token (.whitespace " ") :: .opening (.bracket .curly) :: .token (.whitespace " ") ::
        (row ++ .closing .curly :: significant rest) := by
  rw [significant_space rfl, significant_opening, significant_space stops, read,
    significant_closing]

theorem significant_keyword (keyword : Identifier) {rest : List Char} (ends : endsName rest) :
    significant ('@' :: (keyword.name.toList ++ rest)) =
      .token (.atKeyword keyword.name) :: significant rest := by
  have read := significant_write (.token (.atKeyword keyword.name)) keyword.name_ne_nil ends
  have text : (Lexeme.token (.atKeyword keyword.name)).write = '@' :: keyword.name.toList :=
    congrArg _ keyword.writeIdent_name
  rw [text] at read
  exact read

/-! ## Reading phrases -/

theorem spaced_nil : (spaced []).toList = [] := by
  simp [spaced]

theorem spaced_cons (name : Identifier) (names : List Identifier) :
    (spaced (name :: names)).toList = ' ' :: (name.name.toList ++ (spaced names).toList) := by
  simp [spaced]

theorem head?_name (name : Identifier) (rest : List Char) :
    (name.name.toList ++ rest).head?.any isSpace = false := by
  have starts := name.starts
  cases spelled : name.name.toList with
  | nil => exact (name.name_ne_nil spelled).elim
  | cons c cs =>
    rw [spelled] at starts
    by_contra space
    simp only [List.cons_append, List.head?_cons, Option.any_some, Bool.not_eq_false] at space
    rw [not_startsName_of_space space] at starts
    cases starts

theorem closesName_spaced (names : List Identifier) {rest : List Char} (closes : closesName rest) :
    closesName ((spaced names).toList ++ rest) := by
  cases names with
  | nil => rwa [spaced_nil]
  | cons name names =>
    rw [spaced_cons]
    exact ⟨' ', _, rfl, .inl rfl⟩

/-- Names with spaces between them are read one by one. -/
theorem significant_spaced (names : List Identifier) {rest : List Char}
    (closes : closesName rest) :
    significant ((spaced names).toList ++ rest) =
      Component.lexemesOf (spacedLeaves names) ++ significant rest := by
  induction names with
  | nil => simp [spaced_nil, spacedLeaves]
  | cons name names ih =>
    rw [spaced_cons, List.cons_append, List.append_assoc, significant_space (head?_name name _),
      significant_name name (closesName_spaced names closes), ih]
    simp [spacedLeaves, spaceLeaf, nameLeaf]

theorem text_selector (element : Word) (descendants : List Word) (rest : List Char) :
    (Selector.text ⟨element, none, descendants⟩).toList ++ rest =
      element.identifier.name.toList ++
        ((spaced (descendants.map Word.identifier)).toList ++ rest) := by
  simp [Selector.text, Word.identifier]

theorem text_selector_state (element state : Word) (descendants : List Word) (rest : List Char) :
    (Selector.text ⟨element, some state, descendants⟩).toList ++ rest =
      element.identifier.name.toList ++ ':' :: (state.identifier.name.toList ++
        ((spaced (descendants.map Word.identifier)).toList ++ rest)) := by
  simp [Selector.text, Word.identifier]

theorem significant_selector (selector : Selector) {rest : List Char} (closes : closesName rest) :
    significant (selector.text.toList ++ rest) =
      Component.lexemesOf selector.components ++ significant rest := by
  obtain ⟨element, state, descendants⟩ := selector
  have behind := closesName_spaced (descendants.map Word.identifier) closes
  cases state with
  | none =>
    rw [text_selector, significant_name element.identifier behind, significant_spaced _ closes]
    simp [Selector.components, nameLeaf]
  | some state =>
    rw [text_selector_state, significant_name element.identifier ⟨':', _, rfl, .inr (.inl rfl)⟩,
      significant_colon, significant_name state.identifier behind, significant_spaced _ closes]
    simp [Selector.components, nameLeaf, signLeaf]

/-! ## Reading items -/

section Texts

variable {place : Place} (rest : List Char)

theorem text_declaration (name first : Identifier) (more : List Identifier) :
    (Item.declaration name first more).text.toList ++ rest =
      name.name.toList ++ ':' :: ((spaced (first :: more)).toList ++ ';' :: rest) := by
  change (name.name ++ ":" ++ spaced (first :: more) ++ ";").toList ++ rest = _
  simp

theorem text_junk (first : Word) (more : List Word) :
    (Item.junk first more).text.toList ++ rest =
      first.identifier.name.toList ++
        ((spaced (more.map Word.identifier)).toList ++ ';' :: rest) := by
  change (first.name ++ spaced (more.map Word.identifier) ++ ";").toList ++ rest = _
  simp [Word.identifier]

theorem text_rule (selector : Selector) (content : Content .block) :
    (Item.rule selector content : Item place).text.toList ++ rest =
      selector.text.toList ++
        ' ' :: '\x7b' :: ' ' :: (content.text.toList ++ '\x7d' :: rest) := by
  change (selector.text ++ " \x7b " ++ content.text ++ "\x7d").toList ++ rest = _
  simp

theorem text_atRule (keyword : Identifier) (prelude : List Word)
    (content : Content (place.inside keyword)) :
    (Item.atRule keyword prelude content).text.toList ++ rest =
      '@' :: (keyword.name.toList ++ ((spaced (prelude.map Word.identifier)).toList ++
        ' ' :: '\x7b' :: ' ' :: (content.text.toList ++ '\x7d' :: rest))) := by
  change ("@" ++ keyword.name ++ spaced (prelude.map Word.identifier) ++ " \x7b " ++
    content.text ++ "\x7d").toList ++ rest = _
  simp

theorem text_dangling (first : Word) (more : List Word) :
    (Content.dangling first more : Content place).text.toList ++ rest =
      first.identifier.name.toList ++
        ((spaced (more.map Word.identifier)).toList ++ ' ' :: rest) := by
  change (first.name ++ spaced (more.map Word.identifier) ++ " ").toList ++ rest = _
  simp [Word.identifier]

theorem text_item (first : Item place) (others : Content place) :
    (Content.item first others).text.toList ++ rest =
      first.text.toList ++ ' ' :: (others.text.toList ++ rest) := by
  change (first.text ++ " " ++ others.text).toList ++ rest = _
  simp

end Texts

theorem head?_selector (selector : Selector) (rest : List Char) :
    (selector.text.toList ++ rest).head?.any isSpace = false := by
  obtain ⟨element, state, descendants⟩ := selector
  cases state with
  | none =>
    rw [text_selector]
    exact head?_name element.identifier _
  | some state =>
    rw [text_selector_state]
    exact head?_name element.identifier _

theorem head?_item {place : Place} (item : Item place) (rest : List Char) :
    (item.text.toList ++ rest).head?.any isSpace = false := by
  cases item with
  | declaration name first more =>
    rw [text_declaration]
    exact head?_name name _
  | junk first more =>
    rw [text_junk]
    exact head?_name first.identifier _
  | rule selector content =>
    rw [text_rule]
    exact head?_selector selector _
  | atRule keyword prelude content =>
    rw [text_atRule]
    rfl

theorem head?_content {place : Place} (content : Content place) {rest : List Char}
    (stops : rest.head?.any isSpace = false) :
    (content.text.toList ++ rest).head?.any isSpace = false := by
  cases content with
  | done => simpa [Content.text] using stops
  | dangling first more =>
    rw [text_dangling]
    exact head?_name first.identifier _
  | item first others =>
    rw [text_item]
    exact head?_item first _

theorem endsName_spaced (names : List Identifier) (rest : List Char) :
    endsName ((spaced names).toList ++ ' ' :: rest) = true := by
  cases names with
  | nil =>
    rw [spaced_nil]
    rfl
  | cons name names =>
    rw [spaced_cons]
    rfl

mutual

/-- The text of an item is read as its components. -/
theorem significant_item {place : Place} : ∀ (item : Item place) (rest : List Char),
    significant (item.text.toList ++ rest) =
      Component.lexemesOf item.components ++ significant rest
  | .declaration name first more, rest => by
    have closes : closesName (';' :: rest) := ⟨';', rest, rfl, .inr (.inr (.inl rfl))⟩
    rw [text_declaration, significant_name name ⟨':', _, rfl, .inr (.inl rfl)⟩, significant_colon,
      significant_spaced _ closes, significant_semicolon]
    simp [Item.components, nameLeaf, signLeaf]
  | .junk first more, rest => by
    have closes : closesName (';' :: rest) := ⟨';', rest, rfl, .inr (.inr (.inl rfl))⟩
    rw [text_junk, significant_name first.identifier (closesName_spaced _ closes),
      significant_spaced _ closes, significant_semicolon]
    simp [Item.components, nameLeaf, signLeaf]
  | .rule selector content, rest => by
    have stops : (content.text.toList ++ '\x7d' :: rest).head?.any isSpace = false :=
      head?_content content rfl
    have block := significant_block stops (significant_content content ('\x7d' :: rest) rfl)
    rw [text_rule, significant_selector selector ⟨' ', _, rfl, .inl rfl⟩, block]
    simp [Item.components, spaceLeaf, Opener.brackets]
  | .atRule keyword prelude content, rest => by
    have stops : (content.text.toList ++ '\x7d' :: rest).head?.any isSpace = false :=
      head?_content content rfl
    have block := significant_block stops (significant_content content ('\x7d' :: rest) rfl)
    rw [text_atRule, significant_keyword keyword (endsName_spaced _ _),
      significant_spaced _ ⟨' ', _, rfl, .inl rfl⟩, block]
    simp [Item.components, spaceLeaf, Opener.brackets]

/-- The text of a list of items is read as their components, one item after the other. -/
theorem significant_content {place : Place} : ∀ (content : Content place) (rest : List Char),
    rest.head?.any isSpace = false →
    significant (content.text.toList ++ rest) =
      Component.lexemesOf content.components ++ significant rest
  | .done, rest, _ => by simp [Content.text, Content.components]
  | .dangling first more, rest, stops => by
    have closes : closesName (' ' :: rest) := ⟨' ', rest, rfl, .inl rfl⟩
    rw [text_dangling, significant_name first.identifier (closesName_spaced _ closes),
      significant_spaced _ closes, significant_space stops]
    simp [Content.components, nameLeaf, spaceLeaf]
  | .item first others, rest, stops => by
    rw [text_item, significant_item first, significant_space (head?_content others stops),
      significant_content others rest stops]
    simp [Content.components, spaceLeaf]

end

/-! ## Reading whole documents -/

/-- The signs of a document are read as they are. -/
theorem isKept_signs : isKept ' ' = true ∧ isKept ':' = true ∧ isKept ';' = true ∧
    isKept '@' = true ∧ isKept '\x7b' = true ∧ isKept '\x7d' = true := by
  decide

theorem Identifier.all_isKept (name : Identifier) : name.name.toList.all isKept = true := by
  have plain := name.plain
  simp only [List.all_eq_true, Bool.and_eq_true] at plain ⊢
  exact fun c member => isKept_of_isNameChar (plain c member).1

theorem all_isKept_spaced (names : List Identifier) : (spaced names).toList.all isKept = true := by
  induction names with
  | nil => simp [spaced_nil]
  | cons name names ih => simp [spaced_cons, ih, name.all_isKept, isKept_signs]

theorem all_isKept_selector (selector : Selector) : selector.text.toList.all isKept = true := by
  obtain ⟨element, state, descendants⟩ := selector
  have first : element.name.toList.all isKept = true := element.identifier.all_isKept
  cases state with
  | none => simp [Selector.text, first, all_isKept_spaced]
  | some state =>
    have second : state.name.toList.all isKept = true := state.identifier.all_isKept
    simp [Selector.text, first, second, all_isKept_spaced, isKept_signs]

mutual

theorem all_isKept_item {place : Place} : ∀ item : Item place, item.text.toList.all isKept = true
  | .declaration name first more => by
    simp [Item.text, name.all_isKept, all_isKept_spaced, isKept_signs]
  | .junk first more => by
    have word : first.name.toList.all isKept = true := first.identifier.all_isKept
    simp [Item.text, word, all_isKept_spaced, isKept_signs]
  | .rule selector content => by
    simp [Item.text, all_isKept_selector selector, all_isKept_content content, isKept_signs]
  | .atRule keyword prelude content => by
    simp [Item.text, keyword.all_isKept, all_isKept_spaced, all_isKept_content content,
      isKept_signs]

theorem all_isKept_content {place : Place} :
    ∀ content : Content place, content.text.toList.all isKept = true
  | .done => by simp [Content.text]
  | .dangling first more => by
    have word : first.name.toList.all isKept = true := first.identifier.all_isKept
    simp [Content.text, word, all_isKept_spaced, isKept_signs]
  | .item first others => by
    simp [Content.text, all_isKept_item first, all_isKept_content others, isKept_signs]

end

theorem noneOverlong_spacedLeaves (names : List Identifier) :
    NoneOverlong (Component.lexemesOf (spacedLeaves names)) := by
  induction names with
  | nil => simp [spacedLeaves]
  | cons name names ih =>
    have more : spacedLeaves (name :: names) = spaceLeaf :: nameLeaf name :: spacedLeaves names :=
      rfl
    simp [more, spaceLeaf, nameLeaf, ih]

theorem noneOverlong_selector (selector : Selector) :
    NoneOverlong (Component.lexemesOf selector.components) := by
  obtain ⟨element, state, descendants⟩ := selector
  cases state <;> simp [Selector.components, noneOverlong_spacedLeaves, nameLeaf, signLeaf]

mutual

theorem noneOverlong_item {place : Place} : ∀ item : Item place,
    NoneOverlong (Component.lexemesOf item.components)
  | .declaration name first more => by
    simp [Item.components, noneOverlong_spacedLeaves, nameLeaf, signLeaf]
  | .junk first more => by
    simp [Item.components, noneOverlong_spacedLeaves, nameLeaf, signLeaf]
  | .rule selector content => by
    simp [Item.components, noneOverlong_selector, noneOverlong_content content, spaceLeaf]
  | .atRule keyword prelude content => by
    simp [Item.components, noneOverlong_spacedLeaves, noneOverlong_content content, spaceLeaf]

theorem noneOverlong_content {place : Place} : ∀ content : Content place,
    NoneOverlong (Component.lexemesOf content.components)
  | .done => by simp [Content.components]
  | .dangling first more => by
    simp [Content.components, noneOverlong_spacedLeaves, nameLeaf, spaceLeaf]
  | .item first others => by
    simp [Content.components, noneOverlong_item first, noneOverlong_content others, spaceLeaf]

end

/-- A document is read as its components. -/
theorem components_text (document : Document) :
    normalized document.text.toList = document.text.toList ∧
      components document.text.toList = document.components ∧
      overlong? document.text.toList = none := by
  have read := significant_content document [] rfl
  rw [List.append_nil, significant_nil, List.append_nil] at read
  refine ⟨normalized_of_kept (all_isKept_content document), ?_, ?_⟩
  · rw [components, read, Component.nested_lexemesOf]
  · rw [overlong?_eq_none_iff, read]
    exact noneOverlong_content document

end Swatch.Css
