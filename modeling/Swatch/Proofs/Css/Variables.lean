import Mathlib.Data.List.Induction
import Mathlib.Data.List.Nodup
import Swatch.Css.Variables

/-!
# The value of a variable

Variables are collected in nested tables, one declaration after the other, and the tables of two
scopes are laid over each other. What comes out is simple: a variable has the value of the last
declaration that defines it, in the first scope that has one
(`SelectorVariables.lookup_resolve`).
-/

namespace Swatch

/-! ## Tables laid over each other -/

namespace Entries

variable {κ β : Type} [BEq κ] [LawfulBEq κ]

theorem keys_put (entries : List (κ × β)) (key : κ) (value : β) :
    (put entries key value).map Prod.fst =
      if key ∈ entries.map Prod.fst then entries.map Prod.fst
      else entries.map Prod.fst ++ [key] := by
  induction entries with
  | nil => simp [put]
  | cons entry rest ih =>
    obtain ⟨own, stored⟩ := entry
    by_cases found : key = own
    · simp [put, found]
    · have other : (key == own) = false := beq_eq_false_iff_ne.mpr found
      by_cases later : key ∈ rest.map Prod.fst
      · rw [if_pos later] at ih
        simp only [put, other, Bool.false_eq_true, if_false, List.map_cons, ih, List.mem_cons,
          later, or_true, if_true]
      · rw [if_neg later] at ih
        simp only [put, other, Bool.false_eq_true, if_false, List.map_cons, ih, List.mem_cons,
          found, later, or_self, List.cons_append]

/-- Setting a key keeps the keys distinct. -/
theorem nodup_put {entries : List (κ × β)} (distinct : (entries.map Prod.fst).Nodup) (key : κ)
    (value : β) : ((put entries key value).map Prod.fst).Nodup := by
  rw [keys_put]
  by_cases known : key ∈ entries.map Prod.fst
  · rwa [if_pos known]
  · rw [if_neg known]
    apply List.Nodup.append distinct (List.nodup_singleton key)
    intro other before last
    rw [List.mem_singleton.mp last] at before
    exact known before

theorem lookup_eq_none_of_not_mem {entries : List (κ × β)} {key : κ}
    (unknown : key ∉ entries.map Prod.fst) : entries.lookup key = none := by
  rw [List.lookup_eq_none_iff]
  intro entry member
  apply bne_iff_ne.mpr
  intro same
  apply unknown
  rw [same]
  exact List.mem_map_of_mem member

/-- The entries of the upper table come before those of the lower one. -/
theorem lookup_putAll {changes : List (κ × β)} (distinct : (changes.map Prod.fst).Nodup)
    (entries : List (κ × β)) (key : κ) :
    (putAll entries changes).lookup key = (changes.lookup key).or (entries.lookup key) := by
  induction changes generalizing entries with
  | nil => rfl
  | cons change changes ih =>
    obtain ⟨own, value⟩ := change
    rw [List.map_cons, List.nodup_cons] at distinct
    have step : putAll entries ((own, value) :: changes) = putAll (put entries own value) changes :=
      rfl
    rw [step, ih distinct.2]
    by_cases same : key = own
    · have unknown := lookup_eq_none_of_not_mem distinct.1
      rw [same, unknown, lookup_put_self, List.lookup_cons, beq_self_eq_true]
      rfl
    · have other : (key == own) = false := beq_eq_false_iff_ne.mpr same
      rw [lookup_put_of_ne _ _ same, List.lookup_cons, other]

end Entries

namespace Css

/-! ## Definitions -/

/-- The declaration defines a variable. -/
def Declaration.isVariable (declaration : Declaration) : Bool :=
  variableStart.toList.isPrefixOf (Text.trimmed declaration.property).toList

/-- The declaration defines the variable of this name for a selector. -/
def Declaration.defines (declaration : Declaration) (selector : Option String) (name : String) :
    Bool :=
  declaration.isVariable && declaration.selector == selector &&
    Text.trimmed declaration.property == name

/-- The value of the last declaration that defines a variable for a selector. -/
def lastValue? (declarations : List Declaration) (selector : Option String) (name : String) :
    Option String :=
  ((declarations.filter (·.defines selector name)).getLast?).map (·.value)

/-- The selectors whose variables hold in a block, the nearest first. -/
def scopes : Option String → List (Option String)
  | none => [some rootSelector]
  | some selector => [some selector, some rootSelector]

/-- The value that a variable has in the block of a selector. -/
def scopedValue? (declarations : List Declaration) (selector : Option String) (name : String) :
    Option String :=
  (scopes selector).findSome? fun scope => lastValue? declarations scope name

theorem lastValue?_append (declarations : List Declaration) (declaration : Declaration)
    (selector : Option String) (name : String) :
    lastValue? (declarations ++ [declaration]) selector name =
      if declaration.defines selector name then some declaration.value
      else lastValue? declarations selector name := by
  by_cases defines : declaration.defines selector name
  · simp [lastValue?, List.filter_append, defines]
  · simp [lastValue?, List.filter_append, defines]

namespace SelectorVariables

/-! ## Collecting definitions -/

/-- What one declaration does to the variables of a selector. -/
theorem own_define (known : SelectorVariables) (declaration : Declaration)
    (selector : Option String) :
    (known.define declaration).own selector =
      if declaration.isVariable && declaration.selector == selector then
        Entries.put (known.own selector) (Text.trimmed declaration.property)
          (some declaration.value)
      else known.own selector := by
  unfold define
  by_cases defining : declaration.isVariable
  · have starts : variableStart.toList.isPrefixOf (Text.trimmed declaration.property).toList =
        true := defining
    by_cases same : declaration.selector = selector
    · subst same
      simp [starts, defining, own, Entries.lookup_put_self]
    · have other : (declaration.selector == selector) = false := beq_eq_false_iff_ne.mpr same
      simp [starts, defining, other, own, Entries.lookup_put_of_ne _ _ (Ne.symm same)]
  · have plain : variableStart.toList.isPrefixOf (Text.trimmed declaration.property).toList =
        false := Bool.eq_false_iff.mpr defining
    simp [plain, defining]

/-- The variables of one selector are distinct. -/
def Distinct (known : SelectorVariables) : Prop :=
  ∀ selector, ((known.own selector).map Prod.fst).Nodup

theorem Distinct.define {known : SelectorVariables} (distinct : known.Distinct)
    (declaration : Declaration) : (known.define declaration).Distinct := by
  intro selector
  rw [own_define]
  split
  · exact Entries.nodup_put (distinct selector) _ _
  · exact distinct selector

/-- A declaration sets the variable that it defines, and no other one. -/
theorem lookup_own_define (known : SelectorVariables) (declaration : Declaration)
    (selector : Option String) (name : String) :
    ((known.define declaration).own selector).lookup name =
      if declaration.defines selector name then some (some declaration.value)
      else (known.own selector).lookup name := by
  rw [own_define]
  by_cases here : declaration.isVariable && declaration.selector == selector
  · rw [if_pos here]
    by_cases same : Text.trimmed declaration.property = name
    · have defines : declaration.defines selector name = true := by
        rw [Declaration.defines, here, same, beq_self_eq_true]
        rfl
      rw [if_pos defines, same, Entries.lookup_put_self]
    · have other : declaration.defines selector name = false := by
        rw [Declaration.defines, beq_eq_false_iff_ne.mpr same, Bool.and_false]
      rw [if_neg (by simp [other]), Entries.lookup_put_of_ne _ _ (Ne.symm same)]
  · have other : declaration.defines selector name = false := by
      rw [Declaration.defines, Bool.eq_false_iff.mpr here, Bool.false_and]
    rw [if_neg here, if_neg (by simp [other])]

theorem ofDeclarations_append (declarations : List Declaration) (declaration : Declaration) :
    ofDeclarations (declarations ++ [declaration]) =
      (ofDeclarations declarations).define declaration := by
  rw [ofDeclarations, List.foldl_append, List.foldl_cons, List.foldl_nil, ofDeclarations]

/-- The variables of each selector are distinct, and have the values they were given last. -/
theorem lookup_own_ofDeclarations (declarations : List Declaration) :
    (ofDeclarations declarations).Distinct ∧ ∀ selector name,
      ((ofDeclarations declarations).own selector).lookup name =
        (lastValue? declarations selector name).map some := by
  induction declarations using List.reverseRecOn with
  | nil => exact ⟨fun _ => List.nodup_nil, fun _ _ => rfl⟩
  | append_singleton declarations declaration ih =>
    obtain ⟨distinct, values⟩ := ih
    rw [ofDeclarations_append]
    refine ⟨distinct.define declaration, ?_⟩
    intro selector name
    rw [lookup_own_define, lastValue?_append, values]
    split <;> rfl

/-! ## Scopes -/

/-- In the block of a selector a variable has the value of its last definition for the selector, or
else the value of its last definition for the root. -/
theorem lookup_resolve (declarations : List Declaration) (selector : Option String)
    (name : String) :
    ((ofDeclarations declarations).resolve selector).lookup name =
      (scopedValue? declarations selector name).map some := by
  obtain ⟨distinct, values⟩ := lookup_own_ofDeclarations declarations
  unfold resolve
  rcases selector with - | selector
  · rw [if_pos (.inl rfl), values]
    simp [scopedValue?, scopes]
  · by_cases root : selector = rootSelector
    · rw [if_pos (.inr (by rw [root])), values, root]
      simp only [scopedValue?, scopes, List.findSome?_cons, List.findSome?_nil]
      cases lastValue? declarations (some rootSelector) name <;> rfl
    · rw [if_neg (by simp [root]), Entries.lookup_putAll (distinct _), values, values]
      simp only [scopedValue?, scopes, List.findSome?_cons, List.findSome?_nil]
      cases lastValue? declarations (some selector) name with
      | some value => rfl
      | none => cases lastValue? declarations (some rootSelector) name <;> rfl

theorem value?_resolve (declarations : List Declaration) (selector : Option String)
    (name : String) :
    ((ofDeclarations declarations).resolve selector).value? name =
      scopedValue? declarations selector name := by
  rw [Variables.value?, lookup_resolve]
  cases scopedValue? declarations selector name <;> rfl

end SelectorVariables

end Css

end Swatch
