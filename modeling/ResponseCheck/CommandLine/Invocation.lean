import ResponseCheck.CommandLine.Refusal

/-!
# Invocations

The arguments of a program name a command and give its flags. A flag with a value takes it from the
same argument, after an equals sign, or from the next one.
-/

namespace ResponseCheck.CommandLine

/-- What a command line asks for. -/
inductive Invocation where
  | help (command : Command)
  | version
  /-- To run a command with flags and their values. -/
  | run (command : Command) (flags : List (Flag × Option String))

/-! ### Arguments -/

/-- How an argument looks. -/
inductive Shape where
  /-- Two dashes, after which there are no more flags. -/
  | dashes
  | long (name : String) (value : Option String)
  | short (letter : Char)
  | plain
deriving DecidableEq, Repr

/-- The shape of an argument. -/
def Shape.of (argument : String) : Shape :=
  match argument.toList with
  | ['-', '-'] => .dashes
  | '-' :: '-' :: text =>
    let name := text.takeWhile (· != '=')
    let value := match text.drop name.length with
      | _ :: value => some (String.ofList value)
      | [] => none
    .long (String.ofList name) value
  | '-' :: letter :: _ => .short letter
  | _ => .plain

/-! ### Flags -/

/-- Flags that were read: those that are complete, in order, and one whose value may still come. -/
structure Progress where
  complete : List (Flag × Option String) := []
  pending : Option (Flag × Option String) := none

namespace Progress

/-- The flags that are complete. -/
def given (p : Progress) : List Flag := p.complete.map (·.1)

/-- Adds a flag with its value. A flag is given once, and no value is empty. -/
def add (p : Progress) (flag : Flag) (value : Option String) : Progress × Option Fault :=
  let others := p.complete.filter (·.1 != flag)
  let added : Progress := { complete := others ++ [(flag, value)] }
  if others.length < p.complete.length then ({ complete := others }, some (.repeated flag))
  else if value == some "" then (added, some (.missingValue flag))
  else (added, none)

/-- Completes the flag whose value may still come. -/
def settle (p : Progress) : Progress × Option Fault :=
  match p.pending with
  | none => (p, none)
  | some (flag, none) => ({ p with pending := none }, some (.missingValue flag))
  | some (flag, some value) => { p with pending := none }.add flag (some value)

/-- Completes the flag whose value may still come, or fails. -/
def settled (p : Progress) : Except Fault Progress :=
  match p.settle with
  | (_, some fault) => .error fault
  | (p, none) => .ok p

/-- Adds a flag with its value, or fails. -/
def added (p : Progress) (flag : Flag) (value : Option String) : Except Fault Progress := do
  match (← p.settled).add flag value with
  | (_, some fault) => .error fault
  | (p, none) => .ok p

/-- Whether the next argument is a value. -/
def awaitsValue (p : Progress) : Bool := p.pending.any (·.2.isNone)

end Progress

/-- What a flag asks for at once, or the flags that are read after it. -/
def readFlag (c : Command) (p : Progress) (flag : Flag) (value : Option String) :
    Except Fault (Invocation ⊕ Progress) :=
  match flag.purpose, value with
  | .value .., some value => return .inr (← p.added flag (some value))
  | .value .., none => return .inr { (← p.settled) with pending := some (flag, none) }
  | _, some value => .error (.unexpectedValue flag value p.given)
  | .switch, none => return .inr (← p.added flag none)
  | .help _, none => do
    let _ ← p.settled
    return .inl (.help c)
  | .version _, none => do
    let _ ← p.settled
    return .inl .version

/-- The most similar name of a flag of a command. -/
def similarFlag? (c : Command) (name : String) : Option Flag :=
  (similarNames name (c.flags.map (·.name))).getLast?.bind c.flag?

/-- The fault of a flag that is not known. Where no flag of the command is similar, a command that
is called later may have one. -/
def unknownFlag (c : Command) (p : Progress) (name : String) (rest : List String) : Fault :=
  let argument := "--" ++ name
  -- The usage shows what was given so far, even if that has a fault of its own.
  let given := p.settle.1.given
  match similarFlag? c name with
  | some flag => .unknownFlag argument flag given
  | none =>
    let later := rest.filterMap fun word => do
      let command ← c.command? word
      return (command.name, ← similarFlag? command name)
    match later.head? with
    | some (command, flag) => .flagOfCommand argument command flag given
    | none => .unexpected argument given

/-- The fault of an argument that is no flag. -/
def unknownArgument (c : Command) (argument : String) : Fault :=
  if c.commands.isEmpty then .unexpected argument []
  else .unknownCommand argument (similarNames argument (c.commands.map (·.name)))

/-- The fault of an argument after two dashes. -/
def afterDashes (c : Command) (argument : String) : Fault :=
  if (c.command? argument).isSome then .commandAfterDashes argument else unknownArgument c argument

/-- What arguments that are all read ask for. -/
def finish (c : Command) (p : Progress) : Except Fault Invocation := do
  let p ← p.settled
  let missing := c.flags.filter fun flag => flag.isRequired && !p.given.contains flag
  if !c.commands.isEmpty then .error .noCommand
  else if !missing.isEmpty then .error (.missing missing p.given)
  else return .run c p.complete

/-! ### Command lines -/

/-- The name of the command that shows the help of others. -/
def helpName : String := "help"

namespace Command

/-- What arguments ask for that name a command to show the help of. -/
def parseHelp (c : Command) : List String → Except Refusal Invocation
  | [] => .ok (.help c)
  | name :: rest =>
    match c.command? name with
    | some command => command.parseHelp rest
    | none => .error ⟨c, .unknownCommand name []⟩

/-- What the arguments of a command ask for, after some flags of it. -/
def parse (c : Command) (p : Progress) : List String → Except Refusal Invocation
  | [] => (finish c p).mapError (⟨c, ·⟩)
  | argument :: rest =>
    -- A word that a flag waits for is its value, even if it is the name of a command.
    match if p.awaitsValue then none else c.command? argument with
    | some command =>
      if command.name == helpName then c.parseHelp rest else command.parse {} rest
    | none =>
      let proceed (step : Except Fault (Invocation ⊕ Progress)) : Except Refusal Invocation :=
        match step with
        | .error fault => .error ⟨c, fault⟩
        | .ok (.inl invocation) => .ok invocation
        | .ok (.inr p) => c.parse p rest
      match Shape.of argument with
      | .dashes =>
        match rest with
        | [] => (finish c p).mapError (⟨c, ·⟩)
        | next :: _ => .error ⟨c, afterDashes c next⟩
      | .long name value =>
        match c.flag? name with
        | some flag => proceed (readFlag c p flag value)
        | none => .error ⟨c, unknownFlag c p name rest⟩
      | .short letter =>
        match c.flagOf? letter with
        | some flag => proceed (readFlag c p flag none)
        | none => .error ⟨c, .unexpected s!"-{letter}" []⟩
      | .plain =>
        match p.pending with
        | some (flag, none) => c.parse { p with pending := some (flag, some argument) } rest
        | _ => .error ⟨c, unknownArgument c argument⟩

end Command

end ResponseCheck.CommandLine
