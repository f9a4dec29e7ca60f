import Swatch.Proofs.CommandLine.Uses
import Swatch.Proofs.Settings.Caching

/-!
# A command is an extraction

What a command brings about is told by the options that hold for it and by its input. Each option
has the value of its last switch, or else that of the options file, or else its default
(`effectiveOptions`). With these options the colors of the input are the output, one after another
with a line end behind each, or there is no output but a message (`run_eq_extraction`).
-/

open Swatch.Outcome (eq_ok_of_mapError eq_ok_of_toOption exists_of_bind_eq_ok ok_bind)

namespace Swatch.CommandLine

/-- The options file: the one that switches name, or else the one that the environment names. An
empty name is none. -/
def optionsFile? (surroundings : Surroundings) (uses : List Use) : Option String :=
  if Use.config uses = "" then
    ((surroundings.environment.lookup configVariable).filter (· != "")).map fun setting =>
      (surroundings.world.place.locateSetting setting).shown
  else some (Use.config uses)

/-- The members of the options file. Without a file there are none. -/
def fileMembers (surroundings : Surroundings) (uses : List Use) :
    Except Settings.LoadError Settings.Members :=
  match optionsFile? surroundings uses with
  | none => .ok []
  | some file => surroundings.world.settings { file }

/-- The options that hold for a command line: of its switches, or else of the options file, or else
the defaults. -/
def effectiveOptions (surroundings : Surroundings) (arguments : List String) :
    Except Settings.LoadError Options :=
  (fileMembers surroundings (uses arguments)).map fun members =>
    .ofValues fun field =>
      (Use.value? (uses arguments) field).or (Options.memberValue? members field)

/-- The colors of an input with the options that hold for a command line, or the message of the
first step that fails. -/
def extraction (surroundings : Surroundings) (arguments : List String) (input : String) :
    Except String (List String) := do
  let options ← (effectiveOptions surroundings arguments).mapError (·.message)
  let text ← Invocation.readInput surroundings input
  (Extraction.ofStylesheet options text).mapError (·.message)

theorem extraction_eq_ok_iff {surroundings : Surroundings} {arguments : List String}
    {input : String} {colors : List String} :
    extraction surroundings arguments input = .ok colors ↔
      ∃ options text, effectiveOptions surroundings arguments = .ok options ∧
        Invocation.readInput surroundings input = .ok text ∧
        Extraction.ofStylesheet options text = .ok colors := by
  constructor
  · intro found
    obtain ⟨options, effective, found⟩ := exists_of_bind_eq_ok found
    obtain ⟨text, read, found⟩ := exists_of_bind_eq_ok found
    exact ⟨options, text, eq_ok_of_mapError effective, read, eq_ok_of_mapError found⟩
  · rintro ⟨options, text, effective, read, found⟩
    rw [extraction, effective, read]
    exact congrArg (Except.mapError (·.message)) found

namespace Invocation

variable {arguments : List String} {invocation : Invocation}

theorem configFile?_eq (surroundings : Surroundings)
    (accepted : Command.read arguments = .ok (.extract invocation)) :
    invocation.configFile? surroundings = optionsFile? surroundings (uses arguments) := by
  unfold configFile? optionsFile?
  rw [Command.config_of_read accepted]
  split
  next given => rw [if_neg (bne_iff_ne.mp given)]
  next absent =>
    rw [if_pos (by simpa using absent)]
    split
    next unset => rw [unset]; rfl
    next empty => rw [empty]; rfl
    next setting other set =>
      rw [set, Option.filter_some, if_pos (by simpa using other)]
      rfl

theorem fileOptions_eq (surroundings : Surroundings) (file : String) :
    (fileOptions surroundings file).map (·.1) =
      (surroundings.world.settings { file }).map .ofMembers := by
  unfold fileOptions Settings.Store.load Settings.World.settings
  cases surroundings.world.locate { file } with
  | error error => rfl
  | ok place =>
    obtain ⟨path, content⟩ := place
    simp only [ok_bind, List.lookup_nil]
    cases surroundings.world.read { file } path content <;> rfl

/-- The options of an invocation are those that hold for its command line. -/
theorem options_eq (surroundings : Surroundings)
    (accepted : Command.read arguments = .ok (.extract invocation)) :
    (invocation.options surroundings).map (·.1) = effectiveOptions surroundings arguments := by
  have overridden (members : Settings.Members) : invocation.override (.ofMembers members) =
      .ofValues fun field =>
        (Use.value? (uses arguments) field).or (Options.memberValue? members field) := by
    rw [Options.ofMembers_eq_ofValues, override_ofValues]
    exact congrArg Options.ofValues
      (funext fun field => by rw [Command.value?_of_read accepted])
  unfold options effectiveOptions fileMembers
  rw [configFile?_eq surroundings accepted]
  cases optionsFile? surroundings (uses arguments) with
  | none => exact congrArg Except.ok (overridden [])
  | some file =>
    have through (found : Except Settings.LoadError (Options × List Journal.Event)) :
        (found >>= fun own => return (invocation.override own.1, own.2)).map (·.1) =
          (found.map (·.1)).map invocation.override := by
      cases found <;> rfl
    refine (through _).trans ?_
    rw [fileOptions_eq]
    dsimp only
    cases surroundings.world.settings { file } with
    | error error => rfl
    | ok members => exact congrArg Except.ok (overridden members)

theorem colors_eq (surroundings : Surroundings)
    (accepted : Command.read arguments = .ok (.extract invocation)) :
    (invocation.colors surroundings).1 = extraction surroundings arguments invocation.input := by
  unfold colors extraction
  rw [← options_eq surroundings accepted]
  cases invocation.options surroundings with
  | error error => rfl
  | ok found =>
    dsimp only
    cases read : readInput surroundings invocation.input with
    | error message => rfl
    | ok text => rfl

theorem outcome_of_colors (surroundings : Surroundings) {colors : List String}
    (found : (invocation.colors surroundings).1 = .ok colors) :
    (invocation.outcome surroundings).status = 0 ∧
      (invocation.outcome surroundings).output = "".intercalate (colors.map (· ++ "\n")) := by
  unfold outcome
  dsimp only
  rw [found]
  exact ⟨rfl, rfl⟩

theorem outcome_of_message (surroundings : Surroundings) {message : String}
    (failed : (invocation.colors surroundings).1 = .error message) :
    (invocation.outcome surroundings).status = 1 ∧ (invocation.outcome surroundings).output = "" ∧
      ∃ notes, (invocation.outcome surroundings).errors =
        notes ++ "❌ Error: " ++ message ++ "\n" := by
  unfold outcome
  dsimp only
  rw [failed]
  exact ⟨rfl, rfl, _, rfl⟩

end Invocation

theorem run_eq_outcome (surroundings : Surroundings) {arguments : List String}
    {invocation : Invocation} (accepted : Command.read arguments = .ok (.extract invocation)) :
    run surroundings arguments = invocation.outcome surroundings := by
  rw [run, accepted]

/-- A command line that is accepted puts out the colors of its input, a line end behind each, or no
more than a message on the errors. So command lines for which the same options hold put out the
same for the same input, wherever they have the options from. -/
theorem run_eq_extraction (surroundings : Surroundings) {arguments : List String}
    {invocation : Invocation} (accepted : Command.read arguments = .ok (.extract invocation)) :
    (∀ colors, extraction surroundings arguments invocation.input = .ok colors →
      (run surroundings arguments).status = 0 ∧
        (run surroundings arguments).output = "".intercalate (colors.map (· ++ "\n"))) ∧
    (∀ message, extraction surroundings arguments invocation.input = .error message →
      (run surroundings arguments).status = 1 ∧ (run surroundings arguments).output = "" ∧
        ∃ notes, (run surroundings arguments).errors = notes ++ "❌ Error: " ++ message ++ "\n") ∧
    ∀ (surroundings' : Surroundings) (arguments' : List String) (invocation' : Invocation),
      Command.read arguments' = .ok (.extract invocation') →
      effectiveOptions surroundings' arguments' = effectiveOptions surroundings arguments →
      Invocation.readInput surroundings' invocation'.input =
        Invocation.readInput surroundings invocation.input →
      (run surroundings' arguments').status = (run surroundings arguments).status ∧
        (run surroundings' arguments').output = (run surroundings arguments).output := by
  have own := Invocation.colors_eq surroundings accepted
  rw [run_eq_outcome surroundings accepted, ← own]
  refine ⟨fun colors => Invocation.outcome_of_colors surroundings,
    fun message => Invocation.outcome_of_message surroundings, ?_⟩
  intro surroundings' arguments' invocation' accepted' options input
  rw [run_eq_outcome surroundings' accepted']
  have same : (invocation'.colors surroundings').1 = (invocation.colors surroundings).1 := by
    rw [own, Invocation.colors_eq surroundings' accepted', extraction, extraction, options, input]
  cases found : (invocation.colors surroundings).1 with
  | ok colors =>
    obtain ⟨status, output⟩ := Invocation.outcome_of_colors surroundings found
    obtain ⟨status', output'⟩ := Invocation.outcome_of_colors surroundings' (same.trans found)
    exact ⟨status'.trans status.symm, output'.trans output.symm⟩
  | error message =>
    obtain ⟨status, output, -⟩ := Invocation.outcome_of_message surroundings found
    obtain ⟨status', output', -⟩ := Invocation.outcome_of_message surroundings' (same.trans found)
    exact ⟨status'.trans status.symm, output'.trans output.symm⟩

/-! ## An option from two places -/

/-- A sheet with a grey on the standard input, in an empty directory. -/
def Surroundings.grey : Surroundings where
  world := .empty
  standardInput := "a\x7bcolor:gray;fill:red\x7d"
  time := ""

/-- The same with an options file, named by the environment, that asks for hexadecimal colors other
than greys. -/
def Surroundings.greyless : Surroundings where
  world := Settings.World.empty.after (.write "options.json"
    ⟨"\x7b\"withoutGrey\":true,\"colorFormat\":\"hex\"\x7d".toUTF8.data.toList, .ofNat 1000⟩)
  environment := [(configVariable, "options.json")]
  standardInput := Surroundings.grey.standardInput
  time := ""

/-- Two switches put out the same as the options file, and a file that is missing puts out
nothing. -/
theorem run_grey :
    Command.read ["-gf", "hex", "-"] =
        .ok (.extract { input := "-", withoutGrey := true, colorFormat := some (.string "hex") }) ∧
      Command.read ["-"] = .ok (.extract { input := "-" }) ∧
      (run .grey ["-gf", "hex", "-"]).status = 0 ∧
      (run .grey ["-gf", "hex", "-"]).output = "#FF0000\n" ∧
      (run .greyless ["-"]).output = "#FF0000\n" ∧
      (run .grey ["absent.css"]).status = 1 ∧ (run .grey ["absent.css"]).output = "" := by
  have switched : Command.read ["-gf", "hex", "-"] = .ok (.extract
      { input := "-", withoutGrey := true, colorFormat := some (.string "hex") }) := by
    with_unfolding_all rfl
  have plain : Command.read ["-"] = .ok (.extract { input := "-" }) := by with_unfolding_all rfl
  have absent : Command.read ["absent.css"] = .ok (.extract { input := "absent.css" }) := by
    with_unfolding_all rfl
  have options : effectiveOptions .grey ["-gf", "hex", "-"] =
      .ok { withoutGrey := true, colorFormat := .string "hex" } := by
    with_unfolding_all rfl
  have options' : effectiveOptions .greyless ["-"] =
      .ok { withoutGrey := true, colorFormat := .string "hex" } := by
    with_unfolding_all rfl
  have colors : Extraction.ofStylesheet { withoutGrey := true, colorFormat := .string "hex" }
      Surroundings.grey.standardInput = .ok ["#FF0000"] :=
    eq_ok_of_toOption (by decide +kernel)
  have found : extraction .grey ["-gf", "hex", "-"] "-" = .ok ["#FF0000"] :=
    extraction_eq_ok_iff.mpr ⟨_, _, options, rfl, colors⟩
  have missing : extraction .grey ["absent.css"] "absent.css" =
      .error "[Errno 2] No such file or directory: 'absent.css'" := by
    with_unfolding_all rfl
  obtain ⟨extracts, -, agrees⟩ := run_eq_extraction .grey switched
  obtain ⟨status, output⟩ := extracts _ found
  obtain ⟨-, output'⟩ := agrees .greyless _ _ plain (options'.trans options.symm) rfl
  obtain ⟨failed, nothing, -⟩ := (run_eq_extraction .grey absent).2.1 _ missing
  exact ⟨switched, plain, status, output, output'.trans output, failed, nothing⟩

end Swatch.CommandLine
