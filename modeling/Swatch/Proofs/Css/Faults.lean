import Swatch.Proofs.Css.DocumentDeclarations

/-!
# Faults in a document

Two things can be wrong in a document. Junk in a block is skipped, up to its semicolon and no
further: the document says what it says without the junk (`Stylesheet.declarations_junk`). A run
that dangles at the end of a block is skipped as well, but where only rules may stand it is a rule
without a block, and the style sheet is refused for it (`Stylesheet.declarations_dangling`).

What a document says is known from its tree (`Stylesheet.toOption_declarations_text`), so it is
enough to see what leaving the faults out does to the tree.
-/

namespace Swatch.Css

/-! ## Leaving faults out -/

/-- What can be wrong in a list of items. -/
inductive Fault where
  /-- Words before a semicolon that are no declaration. -/
  | junk
  /-- Words at the end of the list. -/
  | dangling
  deriving DecidableEq, Repr

mutual

/-- An item in front of others, without the faults of a kind; junk may be no item at all then. -/
def Item.without (fault : Fault) {place : Place} : Item place → Content place → Content place
  | .declaration name first more, rest => .item (.declaration name first more) rest
  | .junk first more, rest =>
    match fault with
    | .junk => rest
    | .dangling => .item (.junk first more) rest
  | .rule selector content, rest => .item (.rule selector (content.without fault)) rest
  | .atRule keyword prelude content, rest =>
    .item (.atRule keyword prelude (content.without fault)) rest

/-- A list of items without the faults of a kind, on every level. -/
def Content.without (fault : Fault) {place : Place} : Content place → Content place
  | .done => .done
  | .dangling first more =>
    match fault with
    | .junk => .dangling first more
    | .dangling => .done
  | .item first rest => first.without fault (rest.without fault)

end

mutual

/-- A fault says nothing, and an item says the same without it. -/
theorem declarations_item_without (fault : Fault) {place : Place} :
    ∀ (item : Item place) (rest : Content place) (selector : Option String),
      (item.without fault rest).declarations selector =
        item.declarations selector ++ rest.declarations selector
  | .declaration name first more, rest, selector => by
    rw [Item.without, Content.declarations]
  | .junk first more, rest, selector => by
    cases fault with
    | junk => rw [Item.without, Item.declarations, List.nil_append]
    | dangling => rw [Item.without, Content.declarations]
  | .rule inner content, rest, selector => by
    rw [Item.without, Content.declarations, Item.declarations, Item.declarations,
      declarations_content_without fault content]
  | .atRule keyword prelude content, rest, selector => by
    rw [Item.without, Content.declarations, Item.declarations, Item.declarations,
      declarations_content_without fault content]

/-- A list of items says the same without its faults. -/
theorem declarations_content_without (fault : Fault) {place : Place} :
    ∀ (content : Content place) (selector : Option String),
      (content.without fault).declarations selector = content.declarations selector
  | .done, selector => by rw [Content.without]
  | .dangling first more, selector => by
    cases fault with
    | junk => rw [Content.without]
    | dangling => rw [Content.without, Content.declarations, Content.declarations]
  | .item first rest, selector => by
    rw [Content.without, declarations_item_without fault first,
      declarations_content_without fault rest, Content.declarations]

end

/-- What of a document is still missing a block without the faults of a kind. -/
def Fault.leaves (fault : Fault) (breaks : Bool) : Bool :=
  match fault with
  | .junk => breaks
  | .dangling => false

theorem Fault.leaves_false (fault : Fault) : fault.leaves false = false := by
  cases fault <;> rfl

theorem Fault.leaves_or (fault : Fault) (first second : Bool) :
    fault.leaves (first || second) = (fault.leaves first || fault.leaves second) := by
  cases fault <;> rfl

mutual

/-- Junk does not matter to what is missing a block, and where nothing dangles nothing is. -/
theorem breaks_item_without (fault : Fault) {place : Place} :
    ∀ (item : Item place) (rest : Content place),
      (item.without fault rest).breaks = (fault.leaves item.breaks || rest.breaks)
  | .declaration name first more, rest => by
    rw [Item.without, Content.breaks, Item.breaks, fault.leaves_false]
  | .junk first more, rest => by
    rw [Item.breaks, fault.leaves_false, Bool.false_or]
    cases fault with
    | junk => rw [Item.without]
    | dangling => rw [Item.without, Content.breaks, Item.breaks, Bool.false_or]
  | .rule selector content, rest => by
    rw [Item.without, Content.breaks, Item.breaks, Item.breaks,
      breaks_content_without fault content]
  | .atRule keyword prelude content, rest => by
    rw [Item.without, Content.breaks, Item.breaks, Item.breaks,
      breaks_content_without fault content]

theorem breaks_content_without (fault : Fault) {place : Place} :
    ∀ content : Content place, (content.without fault).breaks = fault.leaves content.breaks
  | .done => by rw [Content.without, Content.breaks, fault.leaves_false]
  | .dangling first more => by
    cases fault with
    | junk => rw [Content.without, Fault.leaves]
    | dangling => rw [Content.without, Content.breaks, Fault.leaves]
  | .item first rest => by
    rw [Content.without, breaks_item_without fault first, breaks_content_without fault rest,
      Content.breaks, fault.leaves_or]

end

namespace Stylesheet

/-! ## What a style sheet is refused for -/

/-- A style sheet whose numbers can be read is only refused for a rule without a block. -/
theorem exists_ruleWithoutBlock {text : String}
    (read : overlong? (normalized text.toList) = none)
    (refused : (declarations text).toOption = none) :
    ∃ position, declarations text = .error (.ruleWithoutBlock position) := by
  have reading := readComponents_unmarked text.toList
  rw [read] at reading
  rw [declarations, findings] at refused ⊢
  cases components : readComponents text.toList with
  | error cause =>
    rw [components] at reading
    cases reading
  | ok marked =>
    rw [components] at refused
    cases found : declared (Css.findings .sheet .nothing marked) with
    | ok declarations =>
      rw [Outcome.ok_bind] at refused
      simp only [pure, Except.pure, Outcome.ok_bind, found] at refused
      cases refused
    | error mark =>
      refine ⟨position text mark, ?_⟩
      simp only [pure, Except.pure, Outcome.ok_bind, found]
      rfl

/-- A document says what its tree says, or it is refused for a run that dangles where only rules may
stand. -/
theorem declarations_cases (document : Document) :
    (document.breaks = false ∧ declarations document.text = .ok (document.declarations none)) ∨
      (document.breaks = true ∧
        ∃ position, declarations document.text = .error (.ruleWithoutBlock position)) := by
  have outcome := toOption_declarations_text document
  cases broken : document.breaks with
  | false =>
    rw [broken] at outcome
    exact .inl ⟨rfl, Outcome.eq_ok_of_toOption outcome⟩
  | true =>
    rw [broken] at outcome
    obtain ⟨kept, -, read⟩ := components_text document
    rw [← kept] at read
    exact .inr ⟨rfl, exists_ruleWithoutBlock read outcome⟩

theorem declarations_without (fault : Fault) (document : Document)
    (whole : (document.without fault).breaks = false) :
    declarations (document.without fault).text = .ok (document.declarations none) := by
  rcases declarations_cases (document.without fault) with ⟨-, found⟩ | ⟨broken, -⟩
  · rwa [declarations_content_without] at found
  · rw [whole] at broken
    cases broken

/-! ## Faulty documents -/

/-- Junk in the blocks of a document is skipped alone: nothing is refused, and the declarations are
those of the document without the junk. -/
theorem declarations_junk (document : Document) (whole : document.breaks = false) :
    declarations document.text = .ok (document.declarations none) ∧
      declarations (document.without .junk).text = .ok (document.declarations none) := by
  constructor
  · rcases declarations_cases document with ⟨-, found⟩ | ⟨broken, -⟩
    · exact found
    · rw [whole] at broken
      cases broken
  · apply declarations_without
    rw [breaks_content_without, whole, Fault.leaves_false]

/-- The name of a rule that groups others. -/
def layer : Identifier := ⟨"layer", by decide, by decide⟩

/-- Rules in a rule that groups them. -/
def grouped (content : Content .rules) : Document :=
  .item (.atRule layer [⟨"base", by decide, by decide⟩] content) .done

/-- A word that is no declaration. -/
def oops : Word := ⟨"oops", by decide, by decide⟩

/-- The selector of a rule for one element. -/
def paragraph : Selector := ⟨⟨"p", by decide, by decide⟩, none, []⟩

/-- A declaration. -/
def limeStroke : Item .block :=
  .declaration ⟨"stroke", by decide, by decide⟩ ⟨"lime", by decide, by decide⟩ []

/-- A rule in a rule, with junk around everything in the two. -/
def junkRules : Document :=
  grouped (.item (.rule { paragraph with descendants := [⟨"q", by decide, by decide⟩] }
    (.item (.junk oops []) (.item limeStroke (.item (.junk oops [oops]) (.item (.junk oops [])
      (.item (.rule paragraph (.item (.junk oops []) (.item limeStroke .done))) .done)))))) .done)

theorem declarations_junkRules :
    declarations
        ("@layer base \x7b p q \x7b oops; stroke: lime; oops oops; oops; " ++
          "p \x7b oops; stroke: lime; \x7d \x7d \x7d ") =
      .ok [⟨"stroke", "lime", some "p q"⟩, ⟨"stroke", "lime", some "p"⟩] ∧
    declarations "@layer base \x7b p q \x7b stroke: lime; p \x7b stroke: lime; \x7d \x7d \x7d " =
      .ok [⟨"stroke", "lime", some "p q"⟩, ⟨"stroke", "lime", some "p"⟩] :=
  declarations_junk junkRules rfl

/-- A document is refused exactly when a run dangles where only rules may stand; elsewhere the runs
that dangle are skipped, and the declarations are those of the document without them. -/
theorem declarations_dangling (document : Document) :
    ((∃ position, declarations document.text = .error (.ruleWithoutBlock position)) ↔
        document.breaks = true) ∧
      (document.breaks = false →
        declarations document.text = .ok (document.declarations none) ∧
          declarations (document.without .dangling).text = .ok (document.declarations none)) := by
  constructor
  · rcases declarations_cases document with ⟨whole, found⟩ | ⟨broken, refused⟩
    · constructor
      · rintro ⟨position, refused⟩
        rw [found] at refused
        cases refused
      · intro broken
        rw [whole] at broken
        cases broken
    · exact ⟨fun _ => broken, fun _ => refused⟩
  · intro whole
    constructor
    · rcases declarations_cases document with ⟨-, found⟩ | ⟨broken, -⟩
      · exact found
      · rw [whole] at broken
        cases broken
    · apply declarations_without
      rw [breaks_content_without, Fault.leaves]

/-- A run that dangles in a rule, and perhaps one that dangles behind the rule. -/
def danglingRules (behind : Bool) : Document :=
  grouped (.item (.rule paragraph (.item limeStroke (.dangling oops [oops])))
    (if behind then .dangling oops [] else .done))

theorem declarations_danglingRules :
    (∃ position, declarations
        "@layer base \x7b p \x7b stroke: lime; oops oops \x7d oops \x7d " =
      .error (.ruleWithoutBlock position)) ∧
    declarations "@layer base \x7b p \x7b stroke: lime; oops oops \x7d \x7d " =
      .ok [⟨"stroke", "lime", some "p"⟩] ∧
    declarations "@layer base \x7b p \x7b stroke: lime; \x7d \x7d " =
      .ok [⟨"stroke", "lime", some "p"⟩] :=
  ⟨(declarations_dangling (danglingRules true)).1.mpr rfl,
    (declarations_dangling (danglingRules false)).2 rfl⟩

end Stylesheet

end Swatch.Css
