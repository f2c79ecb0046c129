import ResponseCheck.CommandLine.Similarity

/-!
# Commands

A command has flags, and it may have commands of its own. Its usage and its help follow from these.
-/

namespace ResponseCheck.CommandLine

/-- What a flag is for. -/
inductive Purpose where
  /-- To be there or not. -/
  | switch
  /-- To give a value, which has a name. -/
  | value (name : String) (required : Bool)
  /-- To show the help of its command. -/
  | help (letter : Char)
  /-- To show the version. -/
  | version (letter : Char)
deriving DecidableEq, Repr

/-- A flag, which is written as two dashes and its name. -/
structure Flag where
  name : String
  purpose : Purpose := .switch
  about : String := ""
deriving DecidableEq, Repr

namespace Flag

/-- The letter that may stand for the flag. -/
def letter? (flag : Flag) : Option Char :=
  match flag.purpose with
  | .help letter => some letter
  | .version letter => some letter
  | _ => none

/-- Whether its command cannot do without the flag. -/
def isRequired (flag : Flag) : Bool :=
  match flag.purpose with
  | .value _ required => required
  | _ => false

/-- Whether the flag is one among others that can be left out, help and version apart. -/
def isOption (flag : Flag) : Bool := flag.letter?.isNone && !flag.isRequired

/-- The flag as usages show it. -/
def text (flag : Flag) : String :=
  match flag.purpose with
  | .value name _ => s!"--{flag.name} <{name}>"
  | _ => "--" ++ flag.name

/-- The flag as a list of flags shows it. -/
def listText (flag : Flag) : String :=
  match flag.letter? with
  | some letter => s!"-{letter}, {flag.text}"
  | none => "    " ++ flag.text

end Flag

/-- A command: the words that call it, its name among other commands, what it does, its flags, its
other arguments as they are described, and its own commands. -/
structure Command where
  words : String
  name : String
  about : String
  flags : List Flag := []
  arguments : List (String × String) := []
  commands : List Command := []

namespace Command

/-- The flag with a name. -/
def flag? (c : Command) (name : String) : Option Flag := c.flags.find? (·.name == name)

/-- The flag with a letter. -/
def flagOf? (c : Command) (letter : Char) : Option Flag :=
  c.flags.find? (·.letter? == some letter)

/-- The command of its own with a name. -/
def command? (c : Command) (name : String) : Option Command := c.commands.find? (·.name == name)

/-- How the command is called. Where some flags are given, they are shown instead of a hint at all
flags that can be left out. -/
def usage (c : Command) (given : List Flag) : String :=
  let required := c.flags.filter (·.isRequired)
  let others := given.filter (!·.isRequired)
  let hint := if given.isEmpty && c.flags.any (·.isOption) then ["[OPTIONS]"] else []
  String.intercalate " " <|
    c.words :: hint ++ (required ++ others.eraseDups).map (·.text) ++ c.arguments.map (·.1)
      ++ (if c.commands.isEmpty then [] else ["<COMMAND>"])

/-- A titled list in two columns; nothing if it is empty. -/
def listing (title : String) (rows : List (String × String)) : String :=
  let width := (rows.map (·.1.length)).foldl max 0
  let row (left right : String) := "  " ++ left.pushn ' ' (width - left.length + 2) ++ right ++ "\n"
  if rows.isEmpty then ""
  else "\n" ++ title ++ ":\n" ++ String.join (rows.map fun (left, right) => row left right)

/-- The help of a command. -/
def help (c : Command) : String :=
  c.about ++ "\n\nUsage: " ++ c.usage [] ++ "\n"
    ++ listing "Commands" (c.commands.map fun command => (command.name, command.about))
    ++ listing "Arguments" c.arguments
    ++ listing "Options" (c.flags.map fun flag => (flag.listText, flag.about))

end Command

end ResponseCheck.CommandLine
