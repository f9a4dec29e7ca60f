import Swatch.CommandLine.Run
import Swatch.Proofs.Options
import Swatch.Proofs.Outcome

/-!
# The switches on a command line

The arguments of a command line use switches in some order (`uses`). What an accepted command line
asks for is told by the last use of each kind: whatever a use sets and other uses leave alone is as
the last such use sets it (`eq_last_of_read`). So every option has the value of the last switch for
it (`value?_of_read`), and the options file is the one that was named last (`config_of_read`).
-/

open Swatch.Outcome (exists_of_bind_eq_ok)

namespace Swatch.CommandLine

/-! ## Uses -/

/-- A use of a switch, perhaps with a text for its value. -/
abbrev Use := Switch × Option String

/-- The option that a switch sets. -/
def Switch.field? : Switch → Option Options.Field
  | .withoutGrey => some .withoutGrey
  | .withoutMonochrome => some .withoutMonochrome
  | .allColors => some .allColors
  | .format => some .colorFormat
  | .sort => some .sort
  | _ => none

namespace Use

/-- The last use of a switch of some kind. -/
def last? (uses : List Use) (kind : Switch → Bool) : Option Use :=
  uses.reverse.find? fun use => kind use.1

/-- The value that a use gives an option. Two hyphens leave an empty list. -/
def value (use : Use) : Json :=
  match use.2 with
  | none => .bool true
  | some text => if text = "--" then .array [] else .string text

/-- The options file that a use names. Two hyphens name none. -/
def file (use : Use) : String :=
  match use.2 with
  | none => ""
  | some text => if text = "--" then "" else text

/-- The value that uses give an option: that of the last switch for it. -/
def value? (uses : List Use) (field : Options.Field) : Option Json :=
  (last? uses fun switch => switch.field? == some field).map value

/-- The options file that uses name; an empty name if there is none. -/
def config (uses : List Use) : String :=
  ((last? uses (· == .config)).map file).getD ""

theorem last?_append (before after : List Use) (kind : Switch → Bool) :
    last? (before ++ after) kind = (last? after kind).or (last? before kind) := by
  rw [last?, List.reverse_append, List.find?_append]
  rfl

theorem last?_singleton (use : Use) (kind : Switch → Bool) :
    last? [use] kind = if kind use.1 then some use else none := by
  cases chosen : kind use.1 <;> simp [last?, chosen]

end Use

/-- The uses of switches among arguments. -/
def Argument.uses : List Argument → List Use
  | [] => []
  | .switches switch short value :: rest =>
    match value.elim (.ok (Command.alone switch)) (Command.cluster switch short) with
    | .error _ => []
    | .ok (complete, none) => complete ++ uses rest
    | .ok (complete, some waiting) =>
      match rest with
      | .plain text :: rest => complete ++ [(waiting, some text)] ++ uses rest
      | _ => []
  | _ :: rest => uses rest

/-- The uses of switches on a command line. -/
def uses (arguments : List String) : List Use :=
  match Argument.ofTexts arguments with
  | .ok arguments => Argument.uses arguments
  | .error _ => []

/-- The value that an invocation gives an option, if it gives one. -/
def Invocation.value? (invocation : Invocation) : Options.Field → Option Json
  | .withoutGrey => if invocation.withoutGrey then some (.bool true) else none
  | .withoutMonochrome => if invocation.withoutMonochrome then some (.bool true) else none
  | .allColors => if invocation.allColors then some (.bool true) else none
  | .colorFormat => invocation.colorFormat
  | .sort => invocation.sort

namespace Command

/-! ## Reading -/

theorem chosen_eq_ok {switch : Switch} {text : String} {value : Json}
    (known : chosen switch text = .ok value) : value = Use.value (switch, some text) := by
  unfold chosen at known
  unfold Use.value
  dsimp only
  split at known
  next => rw [if_pos ‹_›, Except.ok.inj known]
  next =>
    rw [if_neg ‹_›]
    split at known
    next =>
      split at known
      next => exact (Except.ok.inj known).symm
      next => cases known
    next => exact (Except.ok.inj known).symm

/-- A use gives its option its value, and leaves the other options alone. -/
theorem value?_set {invocation next : Invocation} {use : Use} (used : set invocation use = .ok next)
    (field : Options.Field) : next.value? field =
      if use.1.field? == some field then some use.value else invocation.value? field := by
  obtain ⟨switch, text⟩ := use
  cases text with
  | none =>
    cases switch <;> first
      | cases used; cases field <;> rfl
      | cases used
  | some text =>
    cases switch with
    | format =>
      obtain ⟨value, known, used⟩ := exists_of_bind_eq_ok used
      rw [← Except.ok.inj used, chosen_eq_ok known]
      cases field <;> rfl
    | sort =>
      obtain ⟨value, known, used⟩ := exists_of_bind_eq_ok used
      rw [← Except.ok.inj used, chosen_eq_ok known]
      cases field <;> rfl
    | config =>
      rw [← Except.ok.inj used]
      cases field <;> rfl
    | _ => cases used

theorem config_set {invocation next : Invocation} {use : Use}
    (used : set invocation use = .ok next) :
    some next.config = if use.1 == .config then some use.file else some invocation.config := by
  obtain ⟨switch, text⟩ := use
  cases text with
  | none =>
    cases switch <;> first
      | cases used; rfl
      | cases used
  | some text =>
    cases switch with
    | format =>
      obtain ⟨value, -, used⟩ := exists_of_bind_eq_ok used
      rw [← Except.ok.inj used]
      rfl
    | sort =>
      obtain ⟨value, -, used⟩ := exists_of_bind_eq_ok used
      rw [← Except.ok.inj used]
      rfl
    | config =>
      rw [← Except.ok.inj used]
      rfl
    | _ => cases used

section Last

-- `view` is what a use of the kind sets, to `given`, and what every other use leaves alone.
variable {β : Type} {view : Invocation → Option β} {kind : Switch → Bool} {given : Use → β}

theorem eq_last_of_foldlM (step : ∀ invocation next use, set invocation use = .ok next →
      view next = if kind use.1 then some (given use) else view invocation)
    {invocation next : Invocation} {uses : List Use}
    (used : uses.foldlM set invocation = .ok next) :
    view next = ((Use.last? uses kind).map given).or (view invocation) := by
  induction uses generalizing invocation with
  | nil =>
    rw [← Except.ok.inj used]
    rfl
  | cons use rest ih =>
    rw [List.foldlM_cons] at used
    obtain ⟨between, first, later⟩ := exists_of_bind_eq_ok used
    rw [ih later, step _ _ _ first, ← List.singleton_append, Use.last?_append, Use.last?_singleton,
      Option.map_or, Option.or_assoc]
    cases kind use.1 <;> rfl

variable (view kind given) in
/-- What a use sets, and what arguments between the uses leave alone, is as the last use sets it. -/
theorem eq_last_of_read (step : ∀ invocation next use, set invocation use = .ok next →
      view next = if kind use.1 then some (given use) else view invocation)
    (input : ∀ invocation text, view { invocation with input := text } = view invocation)
    {state last : State} {arguments : List Argument} (done : state.read arguments = .ok last) :
    view last.invocation =
      ((Use.last? (Argument.uses arguments) kind).map given).or (view state.invocation) := by
  have plain (state : State) (text : String) :
      view (state.plain text).invocation = view state.invocation := by
    unfold State.plain
    split
    · rfl
    · exact input _ _
  have switches {state next : State} {complete : List Use} (rest : List Use)
      (used : state.switches complete = .ok next) :
      ((Use.last? rest kind).map given).or (view next.invocation) =
        ((Use.last? (complete ++ rest) kind).map given).or (view state.invocation) := by
    obtain ⟨invocation, used, same⟩ := exists_of_bind_eq_ok used
    rw [← Except.ok.inj same, eq_last_of_foldlM step used, Use.last?_append, Option.map_or,
      Option.or_assoc]
  -- Words leave the view alone, and the uses of a group of switches come before all that follow.
  fun_induction State.read state arguments with
  | case1 => rw [Except.ok.inj done]; rfl
  | case2 state text rest _ ih => rw [ih done, plain]; rfl
  | case3 state text _ rest ih => rw [ih done, plain]; rfl
  | case4 state text rest _ _ ih => rw [ih done, plain]; rfl
  | case5 state text rest _ ih => exact ih done
  | case6 state text rest _ ih => rw [ih done, plain]; rfl
  | case7 state rest _ ih => rw [ih done]; rfl
  | case8 state text rest ih => exact ih done
  | case9 => cases done
  | case10 state switch short value rest complete found ih =>
    obtain ⟨next, used, done⟩ := exists_of_bind_eq_ok done
    rw [ih next done, switches _ used, Argument.uses, found]
  | case11 state switch short value complete waiting found text rest ih =>
    obtain ⟨next, used, done⟩ := exists_of_bind_eq_ok done
    rw [ih next done, switches _ used, Argument.uses, found]
  | case12 => cases done

end Last

variable {arguments : List String} {invocation : Invocation}

theorem read_eq_ok (accepted : read arguments = .ok (.extract invocation)) :
    ∃ state, ({} : State).read ((Argument.ofTexts arguments).toOption.getD []) = .ok state ∧
      uses arguments = Argument.uses ((Argument.ofTexts arguments).toOption.getD []) ∧
      state.invocation = invocation := by
  unfold read at accepted
  unfold uses
  split at accepted
  next => cases accepted
  next found known =>
    split at accepted
    next => cases accepted
    next => cases accepted
    next state done =>
      split at accepted
      next => cases accepted
      next =>
        split at accepted
        next => cases accepted
        next =>
          rw [known]
          exact ⟨state, done, rfl, Command.extract.inj (Except.ok.inj accepted)⟩

/-- An accepted command line gives each option the value of the last switch for it. -/
theorem value?_of_read (accepted : read arguments = .ok (.extract invocation))
    (field : Options.Field) : invocation.value? field = Use.value? (uses arguments) field := by
  obtain ⟨state, done, same, rfl⟩ := read_eq_ok accepted
  have last := eq_last_of_read (·.value? field) (·.field? == some field) Use.value
    (fun _ _ _ used => value?_set used field) (fun _ _ => by cases field <;> rfl) done
  rw [last, same]
  cases field <;> exact Option.or_none

/-- An accepted command line names the options file that it names last. -/
theorem config_of_read (accepted : read arguments = .ok (.extract invocation)) :
    invocation.config = Use.config (uses arguments) := by
  obtain ⟨state, done, same, rfl⟩ := read_eq_ok accepted
  have last := eq_last_of_read (some ·.config) (· == .config) Use.file
    (fun _ _ _ used => config_set used) (fun _ _ => rfl) done
  rw [same, Use.config]
  cases named : (Use.last? _ (· == Switch.config)).map Use.file with
  | none =>
    rw [named] at last
    exact Option.some.inj last
  | some file =>
    rw [named] at last
    exact Option.some.inj last

end Command

/-- The options of an invocation, over those of a file: its own value for an option comes first. -/
theorem Invocation.override_ofValues (invocation : Invocation)
    (value? : Options.Field → Option Json) : invocation.override (.ofValues value?) =
      .ofValues fun field => (invocation.value? field).or (value? field) := by
  obtain ⟨input, grey, monochrome, all, format, sort, config, debug⟩ := invocation
  cases grey <;> cases monochrome <;> cases all <;> cases format <;> cases sort <;> rfl

end Swatch.CommandLine
