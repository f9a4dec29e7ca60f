import Swatch.Proofs.Css.Delimited
import Swatch.Proofs.Css.Inversion
import Swatch.Proofs.Outcome

/-!
# What is read and written

A text that is handed on inside the program was written from components, and these were read from
some text. So their lexemes are those that a text can hold (`Lexeme.Sound`), and none is a number of
too many digits. The texts of this kind (`IsWritten`) are the pieces of values and the values of
declarations (`isWritten_of_mem_cutPieces`, `isWritten_of_declared`).
-/

namespace Swatch.Css

open Text

/-! ## Lexemes -/

namespace Lexeme

/-- A sign that belongs together with others. -/
def isRareSign (c : Char) : Bool :=
  "\\@<|~^$*>".toList.contains c

/-- What is true of every lexeme that a text holds. -/
def Sound : Lexeme → Prop
  | token (.whitespace spaces) => spaces.toList ≠ [] ∧ spaces.toList.all isSpace
  | token (.ident name) => name.toList ≠ []
  | token (.number numeral) => ∃ whole : Numeral, numeral.toList = whole.text
  | token (.percentage numeral) => ∃ whole : Numeral, numeral.toList = whole.text
  | token (.dimension numeral unit) =>
    unit.toList ≠ [] ∧ ∃ whole : Numeral, numeral.toList = whole.text
  | token (.delim text) =>
    (∃ c, text.toList = [c] ∧ isSign c ∧ isKept c) ∨ ∃ c ∈ text.toList, isRareSign c
  | _ => True

end Lexeme

/-- The lexemes of the row are those that a text holds, and none is a number of too many digits. -/
def SoundRow (row : List Lexeme) : Prop :=
  ∀ lexeme ∈ row, lexeme.Sound ∧ lexeme.overlong? = none

theorem soundRow_append {first second : List Lexeme} :
    SoundRow (first ++ second) ↔ SoundRow first ∧ SoundRow second :=
  List.forall_mem_append

theorem soundRow_cons {lexeme : Lexeme} {row : List Lexeme} :
    SoundRow (lexeme :: row) ↔ (lexeme.Sound ∧ lexeme.overlong? = none) ∧ SoundRow row :=
  List.forall_mem_cons

theorem readName_ne_nil {cs : List Char} (start : startsName cs) : (readName cs).1 ≠ [] := by
  cases cs with
  | nil => cases start
  | cons c cs =>
    by_cases name : isNameChar c
    · rw [readName_nameChar name]
      simp
    · rcases startsName_cons_iff.mp start with letter | ⟨rfl, escape⟩ | ⟨rfl, -⟩
      · exact (name (by simp [isNameChar, letter])).elim
      · rw [readName_escape cs escape]
        simp
      · exact (name rfl).elim

theorem sound_sign {c : Char} {cs : List Char} (kept : isKept c) (alone : Lexeme.StartsNone c cs)
    (opens : Bracket.ofOpening? c = none) (closes : Bracket.ofClosing? c = none)
    (quote : c ≠ '"' ∧ c ≠ '\'') : (Lexeme.token (.delim c.toString)).Sound := by
  have spelled : c.toString.toList = [c] := String.toList_ofList
  cases special : "\"'\\@<|~^$*".toList.contains c with
  | false =>
    exact .inl ⟨c, spelled, Lexeme.isSign_of_startsNone alone opens closes special, kept⟩
  | true =>
    refine .inr ⟨c, by rw [spelled]; exact List.mem_singleton_self c, ?_⟩
    rw [List.contains_iff_mem] at special
    rw [Lexeme.isRareSign, List.contains_iff_mem]
    change c ∈ ['"', '\'', '\\', '@', '<', '|', '~', '^', '$', '*'] at special
    change c ∈ ['\\', '@', '<', '|', '~', '^', '$', '*', '>']
    simp only [List.mem_cons, List.not_mem_nil, or_false, quote.1, quote.2, false_or] at special ⊢
    tauto

theorem sound_range (cs : List Char) : (Lexeme.readRange cs).1.Sound := by
  unfold Lexeme.readRange
  dsimp only
  split
  next =>
    split
    next => split <;> trivial
    next => trivial
  next => trivial

theorem sound_url (cs : List Char) : (Lexeme.token (readUrl cs).1).Sound := by
  rw [readUrl]
  split
  next => trivial
  next => trivial
  next => trivial
  next =>
    split
    next => trivial
    next => split <;> trivial

theorem sound_quoted (quote : Char) (cs : List Char) : (Lexeme.readQuoted quote cs).1.Sound := by
  rw [Lexeme.readQuoted]
  split <;> trivial

/-- Whatever is read is sound. -/
theorem Reading.sound {text rest : List Char} {lexeme : Lexeme}
    (reading : Reading text lexeme rest) (kept : text.all isKept) : lexeme.Sound := by
  cases reading with
  | whitespace space =>
    refine ⟨by simp, ?_⟩
    rw [String.toList_ofList, List.all_cons, space, List.all_takeWhile]
    rfl
  | range start => exact sound_range _
  | ident start range hidden read round =>
    have name := readName_ne_nil start
    rw [read] at name
    change (String.ofList _).toList ≠ []
    rwa [String.toList_ofList]
  | function start range hidden read address => trivial
  | url read address => exact sound_url _
  | dimension found start =>
    obtain ⟨whole, rfl, -, -⟩ := readNumeral?_eq_some_iff.mp found
    have unit := readName_ne_nil start
    refine ⟨?_, whole, String.toList_ofList⟩
    rwa [String.toList_ofList]
  | percentage found =>
    obtain ⟨whole, rfl, -, -⟩ := readNumeral?_eq_some_iff.mp found
    exact ⟨whole, String.toList_ofList⟩
  | number found name percent =>
    obtain ⟨whole, rfl, -, -⟩ := readNumeral?_eq_some_iff.mp found
    exact ⟨whole, String.toList_ofList⟩
  | atKeyword start => trivial
  | hash named => trivial
  | opening bracket cs => trivial
  | closing bracket cs => trivial
  | quoted isQuote cs => exact sound_quoted _ _
  | comment cs => trivial
  | sign alone opens closes quote number slash =>
    rw [List.all_cons, Bool.and_eq_true] at kept
    exact sound_sign kept.1 alone opens closes quote
  | signs longer mark =>
    rename_i c d ds spelled
    subst longer
    right
    rw [String.toList_ofList]
    rcases mark with ⟨-, hidden⟩ | mark
    · exact ⟨'>', by simp [hidden], rfl⟩
    · refine ⟨c, List.mem_cons_self, ?_⟩
      rcases mark with rfl | rfl | rfl | rfl | rfl | rfl <;> rfl

/-- The lexemes of a text are sound, unless a number in it has too many digits. -/
theorem soundRow_significant {text : List Char} (kept : text.all isKept)
    (short : overlong? text = none) : SoundRow (significant text) := by
  have sound : ∀ lexeme ∈ significant text, lexeme.Sound := by
    clear short
    induction length : text.length using Nat.strong_induction_on generalizing text with
    | _ n ih =>
      cases text with
      | nil =>
        rw [significant_nil]
        intro lexeme member
        cases member
      | cons c cs =>
        have reading := reading_read c cs
        have suffix := reading.suffix
        have shorter := Lexeme.length_read_le c cs
        intro lexeme member
        rw [significant_cons, List.mem_append] at member
        rcases member with member | member
        · rw [List.mem_singleton.mp (List.mem_filter.mp member).1]
          exact reading.sound kept
        · refine ih _ ?_ ?_ rfl lexeme member
          · rw [← length]
            exact Nat.lt_succ_of_le shorter
          · exact List.all_eq_true.mpr fun d own => List.all_eq_true.mp kept d (suffix.subset own)
  rw [overlong?_eq_none_iff] at short
  exact fun lexeme member => ⟨sound lexeme member, short lexeme member⟩

/-! ## Components -/

namespace Component

/-- The lexemes of the component are sound. -/
def IsSound (component : Component Unit) : Prop :=
  SoundRow component.lexemes

/-- All of the components are sound. -/
def AllSound (found : List (Component Unit)) : Prop :=
  ∀ component ∈ found, component.IsSound

theorem soundRow_lexemesOf {found : List (Component Unit)} :
    SoundRow (lexemesOf found) ↔ AllSound found := by
  induction found with
  | nil => simp [SoundRow, AllSound]
  | cons component rest ih =>
    rw [lexemesOf_cons, soundRow_append, ih, AllSound, AllSound, List.forall_mem_cons]
    rfl

theorem AllSound.of_subset {found part : List (Component Unit)} (sound : AllSound found)
    (subset : part ⊆ found) : AllSound part :=
  fun component member => sound component (subset member)

theorem soundRow_closing (bracket : Bracket) : SoundRow [.closing bracket] := by
  rw [soundRow_cons]
  exact ⟨⟨trivial, rfl⟩, fun _ member => by cases member⟩

theorem isSound_group {opener : Opener} {content : List (Component Unit)} :
    IsSound (group () opener content) ↔ AllSound content := by
  rw [IsSound, lexemes_group, soundRow_cons, soundRow_append, soundRow_lexemesOf]
  constructor
  · rintro ⟨-, sound, -⟩
    exact sound
  · intro sound
    exact ⟨⟨trivial, rfl⟩, sound, soundRow_closing _⟩

theorem soundRow_closeAll (opened : List (Unclosed Unit)) (done : List (Component Unit))
    (sound : SoundRow (spine opened done)) : AllSound (closeAll opened done) := by
  induction opened generalizing done with
  | nil => exact soundRow_lexemesOf.mp sound
  | cons innermost outer ih =>
    refine ih (innermost.close done) ?_
    rw [spine, soundRow_append, soundRow_cons, soundRow_lexemesOf] at sound
    rw [Unclosed.close, spine_cons, soundRow_append]
    exact ⟨sound.1, isSound_group.mpr sound.2.2⟩

/-- A sound row is nested to sound components. -/
theorem allSound_nestRow (row : List Lexeme) (opened : List (Unclosed Unit))
    (done : List (Component Unit)) (before : SoundRow (spine opened done)) (sound : SoundRow row) :
    AllSound (nestRow opened done row) := by
  have leaf {opened : List (Unclosed Unit)} {done : List (Component Unit)} {token : Token}
      (before : SoundRow (spine opened done))
      (own : (Lexeme.token token).Sound ∧ (Lexeme.token token).overlong? = none) :
      SoundRow (spine opened (.leaf () token :: done)) := by
    rw [spine_cons, soundRow_append, lexemes_leaf, soundRow_cons]
    exact ⟨before, own, fun _ member => by cases member⟩
  induction row generalizing opened done with
  | nil => exact soundRow_closeAll opened done before
  | cons lexeme row ih =>
    rw [soundRow_cons] at sound
    cases lexeme with
    | token token => exact ih _ _ (leaf before sound.1) sound.2
    | opening opener =>
      refine ih (⟨(), opener, done⟩ :: opened) [] ?_ sound.2
      rw [spine, soundRow_append, soundRow_cons, List.reverse_nil, lexemesOf_nil]
      exact ⟨before, ⟨trivial, rfl⟩, fun _ member => by cases member⟩
    | comment => exact ih _ _ before sound.2
    | closing bracket =>
      cases opened with
      | nil => exact ih _ _ (leaf before ⟨trivial, rfl⟩) sound.2
      | cons innermost outer =>
        by_cases fits : innermost.opener.brackets = bracket
        · have step : nestRow (innermost :: outer) done (.closing bracket :: row) =
              nestRow outer (innermost.close done) row := by
            simp [nestRow, nest, fits]
          rw [step]
          refine ih _ _ ?_ sound.2
          rw [spine, soundRow_append, soundRow_cons, soundRow_lexemesOf] at before
          rw [Unclosed.close, spine_cons, soundRow_append]
          exact ⟨before.1, isSound_group.mpr before.2.2⟩
        · have step : nestRow (innermost :: outer) done (.closing bracket :: row) =
              nestRow (innermost :: outer) (.leaf () (.unmatched bracket) :: done) row := by
            simp [nestRow, nest, fits]
          rw [step]
          exact ih _ _ (leaf before ⟨trivial, rfl⟩) sound.2

end Component

/-- The components of a text are sound, unless a number in it has too many digits. -/
theorem allSound_components {text : List Char} (kept : text.all isKept)
    (short : overlong? text = none) : Component.AllSound (components text) := by
  refine Component.allSound_nestRow (significant text) [] [] ?_ (soundRow_significant kept short)
  rw [Component.spine, List.reverse_nil, Component.lexemesOf_nil]
  intro _ member
  cases member

/-! ## Written texts -/

/-- The text was written from sound components. -/
def IsWritten (text : String) : Prop :=
  ∃ found, Component.AllSound found ∧ text = writeTrimmed found

theorem all_normalized (cs : List Char) : (normalized cs).all isKept := by
  fun_induction normalized cs with
  | case1 => rfl
  | case2 cs ih =>
    rw [List.all_cons, ih]
    rfl
  | case3 c cs other ih =>
    rw [List.all_cons, ih, Bool.and_true]
    split
    next => rfl
    next =>
      split
      next => rfl
      next line null =>
        simp only [Bool.or_eq_true, beq_iff_eq, not_or] at line null
        simp [isKept, line, null]

/-- The pieces of components are written texts. -/
theorem isWritten_of_mem_cutPieces {separates : Component Unit → Bool}
    {found : List (Component Unit)} (sound : Component.AllSound found) {piece : String}
    (member : piece ∈ cutPieces separates found) : IsWritten piece := by
  obtain ⟨part, own, rfl⟩ := List.mem_map.mp (List.mem_filter.mp member).1
  exact ⟨part, sound.of_subset (subset_of_mem_splitOnP own), rfl⟩

/-! ## Declared values -/

/-- The components of what has begun. -/
def Begun.components : Begun Unit → List (Component Unit)
  | .nothing => []
  | .atRule _ before => before
  | .run last before => last :: before

/-- The values of all declarations among the findings are written texts. -/
def AllWritten (found : List (Finding Unit)) : Prop :=
  ∀ declaration, .declared declaration ∈ found → IsWritten declaration.value

theorem isWritten_of_declarationOf? {selector : String} {run : List (Component Unit)}
    {declaration : Declaration} (sound : Component.AllSound run)
    (spelled : declarationOf? selector run = some declaration) : IsWritten declaration.value := by
  unfold declarationOf? at spelled
  split at spelled
  next mark name rest =>
    split at spelled
    next => cases spelled
    next colon value found =>
      dsimp only at spelled
      split at spelled
      next =>
        rw [← Option.some.inj spelled]
        refine ⟨_, sound.of_subset ?_, rfl⟩
        have whole : value ⊆ .leaf mark (.ident name) :: rest := by
          have suffix : colon :: value <:+ rest := by
            rw [← found]
            exact List.dropWhile_suffix _
          exact List.Subset.trans (List.subset_cons_self _ _)
            (List.Subset.trans suffix.subset (List.subset_cons_self _ _))
        refine List.Subset.trans ?_ whole
        rw [ValueState.kept]
        split
        next => exact List.take_subset _ _
        next => exact List.Subset.refl _
      next => cases spelled
  next => cases spelled

theorem allWritten_ofRun {scope : Scope} {run : List (Component Unit)} {mark : Unit}
    {ending : RunEnd} (sound : Component.AllSound run) :
    AllWritten [Finding.ofRun scope run mark ending] := by
  intro declaration member
  have same := List.mem_singleton.mp member
  unfold Finding.ofRun at same
  split at same
  next selector =>
    split at same
    next found spelled =>
      rw [Finding.declared.inj same]
      exact isWritten_of_declarationOf? sound spelled
    next => cases same
  next => cases same

theorem allWritten_nil : AllWritten [] := by
  intro declaration member
  cases member

theorem allSound_reverse {found : List (Component Unit)} (sound : Component.AllSound found) :
    Component.AllSound found.reverse :=
  sound.of_subset fun _ member => List.mem_reverse.mp member

/-- What a component does keeps what is known of the components and of the findings. -/
theorem Step.sound_of {scope : Scope} {begun next : Begun Unit} {component : Component Unit}
    {found : List (Finding Unit)} (sound : Component.AllSound (component :: begun.components))
    (step : Step.of scope begun component = .go next found) :
    Component.AllSound next.components ∧ AllWritten found := by
  have nothing : Component.AllSound (Begun.components .nothing) := fun _ member => by cases member
  cases begun with
  | nothing =>
    rw [Step.of, Step.atStart] at step
    split at step
    · cases step
      exact ⟨nothing, allWritten_nil⟩
    split at step
    · cases step
    split at step
    · cases step
      exact ⟨nothing, allWritten_nil⟩
    · cases step
      exact ⟨sound, allWritten_nil⟩
  | atRule keyword before =>
    rw [Step.of, Step.inAtRule] at step
    split at step
    · cases step
    split at step
    · cases step
      exact ⟨nothing, allWritten_nil⟩
    · cases step
      exact ⟨sound, allWritten_nil⟩
  | run last before =>
    have run : Component.AllSound (last :: before) :=
      sound.of_subset (List.subset_cons_self _ _)
    rw [Step.of, Step.inRun] at step
    split at step
    · split at step
      next declaration spelled =>
        cases step
        refine ⟨nothing, fun other member => ?_⟩
        rw [Finding.declared.inj (List.mem_singleton.mp member)]
        cases scope with
        | block selector => exact isWritten_of_declarationOf? (allSound_reverse sound) spelled
        | _ => cases spelled
      next => cases step
    split at step
    · cases step
      exact ⟨nothing, allWritten_ofRun (allSound_reverse run)⟩
    · cases step
      exact ⟨sound, allWritten_nil⟩

mutual

theorem Component.allWritten_findings : ∀ (component : Component Unit) (scope : Scope),
    component.IsSound → AllWritten (Component.findings scope component)
  | .leaf mark token, scope, _ => by
    rw [Component.findings]
    exact allWritten_nil
  | .group mark opener content, scope, sound => by
    rw [Component.findings]
    exact Css.allWritten_findings content scope .nothing (Component.isSound_group.mp sound)
      fun _ member => by cases member

/-- All values that are declared in sound components are written texts. -/
theorem allWritten_findings : ∀ (found : List (Component Unit)) (scope : Scope)
    (begun : Begun Unit), Component.AllSound found → Component.AllSound begun.components →
    AllWritten (findings scope begun found)
  | [], scope, begun, _, before => by
    rw [findings]
    cases begun with
    | nothing => exact allWritten_nil
    | atRule keyword run => exact allWritten_nil
    | run last run => exact allWritten_ofRun (allSound_reverse before)
  | component :: rest, scope, begun, sound, before => by
    rw [Component.AllSound, List.forall_mem_cons] at sound
    rw [findings]
    cases step : Step.of scope begun component with
    | go next found =>
      have own := Step.sound_of (List.forall_mem_cons.mpr ⟨sound.1, before⟩) step
      intro declaration member
      rcases List.mem_append.mp member with member | member
      · exact own.2 declaration member
      · exact allWritten_findings rest scope next sound.2 own.1 declaration member
    | enter inner =>
      intro declaration member
      rcases List.mem_append.mp member with member | member
      · exact Component.allWritten_findings component inner sound.1 declaration member
      · exact allWritten_findings rest scope .nothing sound.2 (fun _ member => by cases member)
          declaration member

end

theorem mem_of_declared {found : List (Finding Unit)} {declarations : List Declaration}
    (read : declared found = .ok declarations) {declaration : Declaration}
    (member : declaration ∈ declarations) : .declared declaration ∈ found := by
  induction found generalizing declarations with
  | nil =>
    cases read
    cases member
  | cons finding rest ih =>
    cases finding with
    | declared first =>
      rw [declared] at read
      cases later : declared rest with
      | error mark =>
        rw [later] at read
        cases read
      | ok others =>
        rw [later] at read
        cases read
        rcases List.mem_cons.mp member with rfl | member
        · exact List.mem_cons_self
        · exact List.mem_cons_of_mem _ (ih later member)
    | skipped mark ending => exact List.mem_cons_of_mem _ (ih read member)
    | broken mark => cases read

/-- The value of every declaration of a style sheet is a written text. -/
theorem isWritten_of_mem_declarations {text : String} {declarations : List Declaration}
    (read : Stylesheet.declarations text = .ok declarations) {declaration : Declaration}
    (member : declaration ∈ declarations) : IsWritten declaration.value := by
  have known := toOption_declarations text
  rw [read] at known
  cases short : overlong? (normalized text.toList) with
  | some count =>
    rw [short] at known
    cases known
  | none =>
    rw [short] at known
    have found := mem_of_declared (Outcome.eq_ok_of_toOption known.symm) member
    exact allWritten_findings _ .sheet .nothing (allSound_components (all_normalized _) short)
      (fun _ member => by cases member) declaration found

end Swatch.Css
