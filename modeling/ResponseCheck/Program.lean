import ResponseCheck.Check
import ResponseCheck.CommandLine.Invocation

/-!
# The program

The program has one command, which runs a check, and prints JSON: a report on standard output, and
an error on standard error.
-/

namespace ResponseCheck.Program

open Check (Surroundings)
open CommandLine (Command Flag Invocation)

/-! ### The command line -/

/-- The flag for help. -/
def helpFlag : Flag := ⟨"help", .help 'h', "Print help"⟩

/-- The flag for the rules. -/
def rulesFlag : Flag := ⟨"rules", .value "RULES" true, ""⟩

/-- The flag for a recorded response. -/
def responseFlag : Flag :=
  ⟨"response", .value "RESPONSE" false,
    "Recorded raw HTTP response used instead of issuing the rules' request"⟩

/-- The flag for the settings. -/
def settingsFlag : Flag := ⟨"config", .value "CONFIG" false, ""⟩

/-- The flag for reports of every failing element. -/
def strictFlag : Flag :=
  ⟨"strict", .switch,
    "Report every failing element under `*` instead of the most recent one"⟩

/-- The command that runs a check. -/
def checkCommand : Command where
  words := "expectq check"
  name := "check"
  about := "Issue a request (or load a recorded response) and run expectations"
  flags := [rulesFlag, responseFlag, settingsFlag, strictFlag, helpFlag]

/-- The command that shows the help of commands. -/
def helpCommand : Command where
  words := "expectq help"
  name := CommandLine.helpName
  about := "Print this message or the help of the given subcommand(s)"
  arguments := [("[COMMAND]...", "Print help for the subcommand(s)")]

/-- The command line of the program. -/
def command : Command where
  words := "expectq"
  name := "expectq"
  about := "Path-based JSON expectations for HTTP APIs"
  flags := [helpFlag, ⟨"version", .version 'V', "Print version"⟩]
  commands := [checkCommand, helpCommand]

/-- The name and the version of the program. -/
def version : String := "expectq 0.1.0"

/-- The value of a flag. -/
def value? (flag : Flag) (flags : List (Flag × Option String)) : Option String :=
  (flags.lookup flag).join

/-- The check that flags ask for. -/
def checkArguments (flags : List (Flag × Option String)) : Check.Arguments where
  rules := (value? rulesFlag flags).getD ""
  response := value? responseFlag flags
  settings := value? settingsFlag flags
  strict := (flags.lookup strictFlag).isSome

/-! ### Running -/

/-- What the program prints, and its exit code. -/
structure Output where
  code : Nat
  standard : String := ""
  error : String := ""
deriving DecidableEq, Repr

/-- An answer as a line of JSON. -/
def line (answer : Json) : String := answer.compact ++ "\n"

/-- What is printed of a check: a report on standard output, and an error on standard error. -/
def Output.ofOutcome (outcome : Check.Outcome) : Output :=
  let answer := line outcome.toJson
  match outcome with
  | .ok _ => { code := outcome.exitCode, standard := answer }
  | .error _ => { code := outcome.exitCode, error := answer }

/-- What is printed of a command line that is refused. -/
def Output.ofRefusal (refusal : CommandLine.Refusal) : Output where
  code := 3
  error := line (Check.refusal refusal.message [("kind", .str "cli_parse_error")])

/-- What the program does with its arguments. -/
def run {m : Type → Type} [Monad m] {ε : Type} (around : Surroundings m ε)
    (arguments : List String) : m Output := do
  match command.parse {} arguments with
  | .error refusal => return .ofRefusal refusal
  | .ok (.help c) => return { code := 0, standard := c.help }
  | .ok .version => return { code := 0, standard := version ++ "\n" }
  | .ok (.run _ flags) => return .ofOutcome (← Check.run around (checkArguments flags))

end ResponseCheck.Program
