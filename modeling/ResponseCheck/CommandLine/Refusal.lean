import ResponseCheck.CommandLine.Command

/-! A command line that cannot be understood is refused with a message in three parts: what is
wrong, a hint where there is one, and the usage of the command. -/

namespace ResponseCheck.CommandLine

/-- What is wrong with the arguments of a command. -/
inductive Fault where
  /-- There is no command. -/
  | noCommand
  | unknownCommand (name : String) (similar : List String)
  /-- A command comes after two dashes, after which there are none. -/
  | commandAfterDashes (name : String)
  | unexpected (argument : String) (given : List Flag)
  /-- A flag is not known, but a similar one is. -/
  | unknownFlag (argument : String) (similar : Flag) (given : List Flag)
  /-- A flag is not known, but one like it belongs to a command. -/
  | flagOfCommand (argument : String) (command : String) (flag : Flag) (given : List Flag)
  | unexpectedValue (flag : Flag) (value : String) (given : List Flag)
  | missingValue (flag : Flag)
  | repeated (flag : Flag)
  | missing (flags : List Flag) (given : List Flag)
deriving DecidableEq, Repr

/-- A command whose arguments are refused, and why. -/
structure Refusal where
  command : Command
  fault : Fault

namespace Fault

/-- What is wrong, in a line or more. -/
def headline : Fault → String
  | .noCommand => "a subcommand is required"
  | .unknownCommand name _ => s!"unrecognized subcommand '{name}'"
  | .commandAfterDashes name => s!"unexpected argument '{name}' found"
  | .unexpected argument _ => s!"unexpected argument '{argument}' found"
  | .unknownFlag argument _ _ => s!"unexpected argument '{argument}' found"
  | .flagOfCommand argument _ _ _ => s!"unexpected argument '{argument}' found"
  | .unexpectedValue flag value _ =>
    s!"unexpected value '{value}' for '{flag.text}' found; no more were expected"
  | .missingValue flag => s!"a value is required for '{flag.text}' but none was supplied"
  | .repeated flag => s!"the argument '{flag.text}' cannot be used multiple times"
  | .missing flags _ =>
    "the following required arguments were not provided:"
      ++ String.join (flags.map fun flag => "\n  " ++ flag.text)

/-- What the user may have meant. -/
def tip? : Fault → Option String
  | .unknownCommand _ [] => none
  | .unknownCommand _ [name] => some s!"a similar subcommand exists: '{name}'"
  | .unknownCommand _ names =>
    some ("some similar subcommands exist: "
      ++ String.intercalate ", " (names.map fun name => s!"'{name}'"))
  | .commandAfterDashes name =>
    some s!"subcommand '{name}' exists; to use it, remove the '--' before it"
  | .unknownFlag _ similar _ => some s!"a similar argument exists: '--{similar.name}'"
  | .flagOfCommand _ command flag _ => some s!"'{command} --{flag.name}' exists"
  | _ => none

/-- The flags that the usage shows; none if there is no usage. -/
def given? : Fault → Option (List Flag)
  | .missingValue _ => none
  | .unexpected _ given => some given
  | .unknownFlag _ similar given => some (given ++ [similar])
  | .flagOfCommand _ _ _ given => some given
  | .unexpectedValue flag _ given => some (given ++ [flag])
  | .missing flags given => some (given ++ flags)
  | _ => some []

end Fault

/-- The message about a refused command line. Without any command it is the help. -/
def Refusal.message (r : Refusal) : String :=
  match r.fault with
  | .noCommand => r.command.help
  | fault =>
    let tip := fault.tip?.elim "" ("\n\n  tip: " ++ ·)
    let usage := fault.given?.elim "" fun given => "\n\nUsage: " ++ r.command.usage given
    let more :=
      if (r.command.flag? "help").isSome then "\n\nFor more information, try '--help'." else ""
    "error: " ++ fault.headline ++ tip ++ usage ++ more ++ "\n"

end ResponseCheck.CommandLine
