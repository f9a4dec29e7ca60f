import Mathlib.Data.Fintype.Basic
import Mathlib.Data.List.Induction
import Swatch.Options

/-!
# Options from their values

Options are built from a value for some of them, and the defaults for the others (`ofValues`).
Members of an object give each option the value of the last member that names it
(`ofMembers_eq_ofValues`), in either spelling of its words (`field?_eq_some_iff`). So the order of
members matters only where two of them name one option (`memberValue?_perm`), and members of other
names do not matter at all (`memberValue?_filter_known`).
-/

namespace Swatch.Options

/-- The options with these values, and the defaults where there is none. -/
def ofValues (value? : Field → Option Json) : Options where
  withoutGrey := ((value? .withoutGrey).map Json.truthy).getD false
  withoutMonochrome := ((value? .withoutMonochrome).map Json.truthy).getD false
  allColors := ((value? .allColors).map Json.truthy).getD false
  colorFormat := (value? .colorFormat).getD .null
  sort := (value? .sort).getD .null

/-- The value that members give an option: that of the last one that names it. -/
def memberValue? (members : List (String × Json)) (field : Field) : Option Json :=
  (members.reverse.find? fun member => field? member.1 == some field).map (·.2)

theorem set_ofValues (value? : Field → Option Json) (field : Field) (value : Json) :
    (ofValues value?).set field value =
      ofValues fun other => if other = field then some value else value? other := by
  cases field <;> rfl

theorem memberValue?_concat (members : List (String × Json)) (name : String) (value : Json)
    (field : Field) : memberValue? (members ++ [(name, value)]) field =
      if field? name = some field then some value else memberValue? members field := by
  rw [memberValue?, List.reverse_append, List.reverse_singleton, List.singleton_append,
    List.find?_cons]
  by_cases named : field? name = some field
  · simp [named]
  · have other : (field? name == some field) = false := beq_eq_false_iff_ne.mpr named
    rw [other, if_neg named]
    rfl

/-- The options that members give have the values of the last members that name them. -/
theorem ofMembers_eq_ofValues (members : List (String × Json)) :
    ofMembers members = ofValues (memberValue? members) := by
  induction members using List.reverseRecOn with
  | nil => rfl
  | append_singleton members member ih =>
    obtain ⟨name, value⟩ := member
    have step : ofMembers (members ++ [(name, value)]) = (field? name).elim (ofMembers members)
        fun field => (ofMembers members).set field value := by
      rw [ofMembers, List.foldl_append, List.foldl_cons, List.foldl_nil]
      dsimp only
      cases field? name <;> rfl
    rw [step, ih]
    cases named : field? name with
    | none =>
      refine congrArg ofValues (funext fun field => ?_)
      rw [memberValue?_concat, named, if_neg (by simp)]
    | some own =>
      refine (set_ofValues _ own value).trans ?_
      refine congrArg ofValues (funext fun field => ?_)
      simp only [memberValue?_concat, named, Option.some.injEq, eq_comm]

/-! ## The spellings of a name -/

namespace Field

instance : Fintype Field where
  elems := {.withoutGrey, .withoutMonochrome, .allColors, .colorFormat, .sort}
  complete field := by cases field <;> decide

/-- The words that name an option. -/
def words : Field → List String
  | withoutGrey => ["without", "grey"]
  | withoutMonochrome => ["without", "monochrome"]
  | allColors => ["all", "colors"]
  | colorFormat => ["color", "format"]
  | sort => ["sort"]

/-- The words with an underscore between any two of them. -/
def snakeCase (field : Field) : String :=
  "_".intercalate field.words

/-- The words in one, each but the first with a capital letter. -/
def camelCase (field : Field) : String :=
  match field.words with
  | [] => ""
  | first :: others => first ++ "".intercalate (others.map String.capitalize)

/-- A member with this name is for the option. -/
def Names (field : Field) (name : String) : Prop :=
  name = field.camelCase ∨ name = field.snakeCase

instance (field : Field) (name : String) : Decidable (field.Names name) :=
  inferInstanceAs (Decidable (_ ∨ _))

end Field

variable {members others : List (String × Json)} {name : String} {field : Field} {value : Json}

/-- An option has the two spellings as its names, and no other name. -/
theorem field?_eq_some_iff : field? name = some field ↔ field.Names name := by
  constructor
  · intro found
    have known : fieldNames.all fun entry => entry.2.Names entry.1 := by
      decide
    obtain ⟨front, back, whole, -⟩ := List.lookup_eq_some_iff.mp found
    have member : (name, field) ∈ fieldNames := whole ▸ List.mem_append_right _ List.mem_cons_self
    exact of_decide_eq_true (List.all_eq_true.mp known _ member)
  · rintro (rfl | rfl)
    · cases field <;> decide
    · cases field <;> decide

/-- Some option has the name. -/
def Known (name : String) : Prop :=
  ∃ field : Field, field.Names name

theorem isSome_field?_iff : (field? name).isSome ↔ Known name := by
  rw [Option.isSome_iff_exists]
  exact exists_congr fun field => field?_eq_some_iff

instance (name : String) : Decidable (Known name) :=
  decidable_of_iff _ isSome_field?_iff

/-! ## The last member that names an option -/

/-- An option is given a value: a member names it and has the value, and no member behind that one
names it. -/
def Field.Given (field : Field) (members : List (String × Json)) (value : Json) : Prop :=
  ∃ front name back, members = front ++ (name, value) :: back ∧ field.Names name ∧
    ∀ member ∈ back, ¬field.Names member.1

theorem memberValue?_eq_some_iff :
    memberValue? members field = some value ↔ field.Given members value := by
  rw [memberValue?, Option.map_eq_some_iff]
  constructor
  · rintro ⟨⟨name, value⟩, found, rfl⟩
    obtain ⟨own, back, front, whole, others⟩ := List.find?_eq_some_iff_append.mp found
    refine ⟨front.reverse, name, back.reverse, ?_, field?_eq_some_iff.mp (beq_iff_eq.mp own), ?_⟩
    · rw [← members.reverse_reverse, whole]
      simp
    · intro member behind names
      have other := others member (List.mem_reverse.mp behind)
      rw [field?_eq_some_iff.mpr names] at other
      simp at other
  · rintro ⟨front, name, back, rfl, names, last⟩
    refine ⟨(name, value), List.find?_eq_some_iff_append.mpr ?_, rfl⟩
    refine ⟨?_, back.reverse, front.reverse, ?_, ?_⟩
    · exact beq_iff_eq.mpr (field?_eq_some_iff.mpr names)
    · simp
    · intro member behind
      have other := last member (List.mem_reverse.mp behind)
      rw [← field?_eq_some_iff] at other
      simpa using other

theorem memberValue?_eq_none_iff :
    memberValue? members field = none ↔ ∀ member ∈ members, ¬field.Names member.1 := by
  rw [memberValue?, Option.map_eq_none_iff, List.find?_eq_none]
  simp only [List.mem_reverse, beq_iff_eq, field?_eq_some_iff]

/-! ## Members in another order -/

/-- No option is named by two of the members. -/
def NamedOnce (members : List (String × Json)) : Prop :=
  members.Pairwise fun a b => ∀ field : Field, ¬(field.Names a.1 ∧ field.Names b.1)

instance (members : List (String × Json)) : Decidable (NamedOnce members) :=
  inferInstanceAs (Decidable (members.Pairwise _))

theorem NamedOnce.of_perm (once : NamedOnce members) (perm : others.Perm members) :
    NamedOnce others := by
  apply perm.symm.pairwise once
  intro a b apart field both
  exact apart field both.symm

/-- Where no option is named twice, any member that names it gives the value. -/
theorem NamedOnce.given_iff (once : NamedOnce members) :
    field.Given members value ↔ ∃ name, (name, value) ∈ members ∧ field.Names name := by
  constructor
  · rintro ⟨front, name, back, rfl, names, -⟩
    exact ⟨name, List.mem_append_right _ List.mem_cons_self, names⟩
  · rintro ⟨name, member, names⟩
    obtain ⟨front, back, rfl⟩ := List.append_of_mem member
    refine ⟨front, name, back, rfl, names, ?_⟩
    intro other behind named
    have apart := (List.pairwise_cons.mp (List.pairwise_append.mp once).2.1).1 other behind
    exact apart field ⟨names, named⟩

theorem memberValue?_perm (once : NamedOnce members) (perm : others.Perm members) :
    memberValue? others = memberValue? members := by
  funext field
  apply Option.ext
  intro value
  rw [memberValue?_eq_some_iff, memberValue?_eq_some_iff, once.given_iff,
    (once.of_perm perm).given_iff]
  simp only [perm.mem_iff]

/-! ## Members that name no option -/

theorem memberValue?_filter_known (members : List (String × Json)) :
    memberValue? (members.filter fun member => Known member.1) = memberValue? members := by
  funext field
  rw [memberValue?, memberValue?, ← List.filter_reverse, List.find?_filter]
  congr 2
  funext member
  rw [Bool.eq_iff_iff]
  simp only [decide_eq_true_eq, beq_iff_eq, field?_eq_some_iff, and_iff_right_iff_imp]
  intro names
  exact ⟨field, names⟩

/-- Each member that names no option is warned of, in order. -/
theorem unknownNames_eq (members : List (String × Json)) :
    unknownNames members = (members.filter fun member => ¬Known member.1).map (·.1) := by
  rw [unknownNames, List.filter_map]
  refine congrArg _ (List.filter_congr fun member _ => ?_)
  rw [Bool.eq_iff_iff]
  simp [← isSome_field?_iff]

/-! ## Options from an object -/

theorem ofJson_object (members : List (String × Json)) :
    ofJson (.object members) = .ok (ofValues (memberValue? members)) := by
  rw [ofJson, ofMembers_eq_ofValues]

/-- An object gives each option the value of the last member that names it in one of the two
spellings, or the default if none does, and there is a warning for each other member, in order. So
the members may come in any order if no option is named twice, and the other members may be left
out. -/
theorem ofJson_by_last_names :
    (∀ members, ∃ value? : Field → Option Json,
      (∀ field value, value? field = some value ↔ field.Given members value) ∧
      (∀ field, value? field = none ↔ ∀ member ∈ members, ¬field.Names member.1) ∧
      ofJson (.object members) = .ok (ofValues value?) ∧
      (unknownNames members).map unknownNameWarning =
        (members.filter fun member => ¬Known member.1).map fun member =>
          "Ignoring unknown option " ++ Text.quoted member.1) ∧
    (∀ members others, NamedOnce members → others.Perm members →
      ofJson (.object others) = ofJson (.object members)) ∧
    ∀ members others : List (String × Json),
      (others.filter fun member => Known member.1) = (members.filter fun member => Known member.1) →
        ofJson (.object others) = ofJson (.object members) := by
  refine ⟨fun members => ?_, fun members others once perm => ?_, fun members others same => ?_⟩
  · refine ⟨memberValue? members, fun field value => memberValue?_eq_some_iff,
      fun field => memberValue?_eq_none_iff, ofJson_object members, ?_⟩
    rw [unknownNames_eq, List.map_map]
    rfl
  · rw [ofJson_object, ofJson_object, memberValue?_perm once perm]
  · rw [ofJson_object, ofJson_object, ← memberValue?_filter_known others, same,
      memberValue?_filter_known]

/-- Two spellings of one option with a name of none between them, and members of two options in
either order. -/
theorem ofJson_of_respelled :
    (∃ value? : Field → Option Json,
      Field.withoutGrey.Given
        [("without_grey", .bool true), ("bogus", .null), ("withoutGrey", .int 0)] (.int 0) ∧
      value? .withoutGrey = some (.int 0) ∧ value? .sort = none ∧
      ofJson (.object [("without_grey", .bool true), ("bogus", .null), ("withoutGrey", .int 0)]) =
        .ok (ofValues value?) ∧
      (unknownNames [("without_grey", .bool true), ("bogus", .null), ("withoutGrey", .int 0)]).map
        unknownNameWarning = ["Ignoring unknown option 'bogus'"]) ∧
    (NamedOnce [("color_format", .null), ("sort", .string "hue")] ∧
      ofJson (.object [("sort", .string "hue"), ("color_format", .null)]) =
        ofJson (.object [("color_format", .null), ("sort", .string "hue")])) ∧
    ofJson (.object [("without_grey", .bool true), ("bogus", .null), ("withoutGrey", .int 0)]) =
      ofJson (.object [("without_grey", .bool true), ("withoutGrey", .int 0)]) := by
  obtain ⟨last, reordered, respelled⟩ := ofJson_by_last_names
  obtain ⟨value?, given, missing, found, warned⟩ :=
    last [("without_grey", .bool true), ("bogus", .null), ("withoutGrey", .int 0)]
  have own : Field.withoutGrey.Given
      [("without_grey", .bool true), ("bogus", .null), ("withoutGrey", .int 0)] (.int 0) :=
    ⟨[("without_grey", .bool true), ("bogus", .null)], "withoutGrey", [], rfl, by decide,
      fun _ behind => absurd behind List.not_mem_nil⟩
  have unnamed : value? .sort = none := (missing .sort).mpr (by decide)
  have once : NamedOnce [("color_format", .null), ("sort", .string "hue")] := by
    decide
  refine ⟨⟨value?, own, (given _ _).mpr own, unnamed, found, ?_⟩, ⟨once, ?_⟩, ?_⟩
  · exact warned.trans (by decide)
  · exact reordered _ _ once (List.Perm.swap _ _ _)
  · exact respelled _ _ rfl

end Swatch.Options
