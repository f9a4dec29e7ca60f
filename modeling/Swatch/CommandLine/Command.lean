import Swatch.CommandLine.Switch

/-!
# Commands

What a command line asks for. There is one input; arguments that are neither that nor a switch nor
the value of one are refused in the end, all at once. The switches of one argument take effect only
once all of them are read.
-/

namespace Swatch.CommandLine

/-- An extraction as a command line asks for it. -/
structure Invocation where
  input : String
  withoutGrey : Bool := false
  withoutMonochrome : Bool := false
  allColors : Bool := false
  colorFormat : Option Json := none
  sort : Option Json := none
  /-- The options file; empty if none is given. -/
  config : String := ""
  debug : Bool := false

/-- What a command line asks for. -/
inductive Command where
  | help
  | extract (invocation : Invocation)

/-- Why a command line is read no further. -/
inductive Stop where
  | help
  | wrong (error : ArgumentError)

namespace Command

/-- What is known of a command line up to some argument. -/
structure State where
  invocation : Invocation := { input := "" }
  /-- The input has been read. -/
  hasInput : Bool := false
  /-- The arguments without a use. -/
  extras : List String := []

/-- The value of a switch that admits only some. Two hyphens are no value, and leave an empty
list. -/
def chosen (switch : Switch) (value : String) : Except Stop Json :=
  if value = "--" then .ok (.array [])
  else
    match switch.choices? with
    | some choices =>
      if choices.contains value then .ok (.string value)
      else .error (.wrong (.valueUnknown switch value choices))
    | none => .ok (.string value)

/-- The invocation with a switch that has no value. -/
def turnOn (invocation : Invocation) : Switch → Except Stop Invocation
  | .help => .error .help
  | .withoutGrey => .ok { invocation with withoutGrey := true }
  | .withoutMonochrome => .ok { invocation with withoutMonochrome := true }
  | .allColors => .ok { invocation with allColors := true }
  | .debug => .ok { invocation with debug := true }
  | switch => .error (.wrong (.valueMissing switch))

/-- The invocation with a switch that has a value. -/
def assign (invocation : Invocation) (value : String) : Switch → Except Stop Invocation
  | .format => do return { invocation with colorFormat := some (← chosen .format value) }
  | .sort => do return { invocation with sort := some (← chosen .sort value) }
  | .config => .ok { invocation with config := if value = "--" then "" else value }
  | switch => .error (.wrong (.valueUnwanted switch value))

/-- The invocation with a switch. -/
def set (invocation : Invocation) : Switch × Option String → Except Stop Invocation
  | (switch, none) => turnOn invocation switch
  | (switch, some value) => assign invocation value switch

/-- A switch with nothing after it: it is complete, or waits for its value. -/
def alone (switch : Switch) : List (Switch × Option String) × Option Switch :=
  if switch.takesValue then ([], some switch) else ([(switch, none)], none)

/-- The switches of one argument, the first one with a text after it: the complete ones, and one
that waits for its value. -/
def cluster (switch : Switch) (short : Bool) (rest : List Char) :
    Except ArgumentError (List (Switch × Option String) × Option Switch) :=
  if switch.takesValue then .ok ([(switch, some (String.ofList rest))], none)
  else
    match rest with
    | [] => .error (.valueUnwanted switch "")
    | c :: tail =>
      match if short then Switch.ofSpelling? (String.ofList ['-', c]) else none with
      | none => .error (.valueUnwanted switch (String.ofList (c :: tail)))
      | some next => do
        let (complete, waiting) ←
          if tail.isEmpty then .ok (alone next) else cluster next true tail
        return ((switch, none) :: complete, waiting)

/-- The state after a plain argument: the first one is the input. -/
def State.plain (state : State) (text : String) : State :=
  if state.hasInput then { state with extras := state.extras ++ [text] }
  else { state with invocation := { state.invocation with input := text }, hasInput := true }

/-- The state after the switches of an argument. -/
def State.switches (state : State) (complete : List (Switch × Option String)) :
    Except Stop State := do
  return { state with invocation := ← complete.foldlM set state.invocation }

/-- The state after arguments. A divider goes with the input, before it or behind it. -/
def State.read (state : State) : List Argument → Except Stop State
  | [] => .ok state
  | .plain text :: rest =>
    if state.hasInput then (state.plain text).read rest
    else
      match rest with
      | .divider :: rest => (state.plain text).read rest
      | rest => (state.plain text).read rest
  | .divider :: rest =>
    match rest with
    | .plain text :: rest =>
      if state.hasInput then
        { state with extras := state.extras ++ ["--", text] }.read rest
      else (state.plain text).read rest
    | rest => { state with extras := state.extras ++ ["--"] }.read rest
  | .unknown text :: rest => { state with extras := state.extras ++ [text] }.read rest
  | .switches switch short value :: rest =>
    match value.elim (.ok (alone switch)) (cluster switch short) with
    | .error error => .error (.wrong error)
    | .ok (complete, none) => do (← state.switches complete).read rest
    | .ok (complete, some waiting) =>
      match rest with
      | .plain text :: rest => do
        (← state.switches (complete ++ [(waiting, some text)])).read rest
      | _ => .error (.wrong (.valueMissing waiting))

/-- What a command line asks for. -/
def read (arguments : List String) : Except ArgumentError Command :=
  match Argument.ofTexts arguments with
  | .error error => .error error
  | .ok arguments =>
    match ({} : State).read arguments with
    | .error .help => .ok .help
    | .error (.wrong error) => .error error
    | .ok state =>
      if !state.hasInput then .error .inputMissing
      else if !state.extras.isEmpty then .error (.unrecognized state.extras)
      else .ok (.extract state.invocation)

end Command

end Swatch.CommandLine
