import PodWorkspace.CommandLine.Flag
import PodWorkspace.Dict
import PodWorkspace.Text.Split

/-! Reading the arguments of the process. They name one command; a flag comes as `--flag value` or
`--flag=value`, at most once, and a value that begins with a dash needs the second form. The first
thing that is wrong ends the reading, but a flag is only looked at when the argument after its value
is. -/

namespace PodWorkspace.CommandLine

/-- Why arguments do not name a command to run. -/
inductive UsageNotice where
  | unknownArgument
  | unknownCommand
  | repeatedFlag
  | missingValue
  /-- A value is given to a flag that takes none. -/
  | unexpectedValue
  | missingCommand
  | nothingGiven
  | helpWanted
  | versionWanted
  deriving DecidableEq, Repr

/-- The exit code of a process that only says how it is used. -/
def UsageNotice.exitCode : UsageNotice → Nat
  | .helpWanted | .versionWanted => 0
  | _ => 2

/-- The flags that have been read, and the last one, which still has to be looked at. -/
structure Given where
  values : List (String × String) := []
  last : Option (String × Option String) := none

namespace Given

def add (g : Given) (name value : String) : Except UsageNotice Given :=
  if (g.values.lookup name).isSome then .error .repeatedFlag
  else .ok { g with values := g.values ++ [(name, value)] }

def settle (g : Given) : Except UsageNotice Given :=
  match g.last with
  | none => .ok g
  | some (_, none) => .error .missingValue
  | some (name, some value) => { g with last := none }.add name value

/-- Whether the last flag still wants its value. -/
def awaitsValue (g : Given) : Bool := g.last.any fun l => l.2.isNone

def withValue (g : Given) (value : String) : Given :=
  { g with last := g.last.map fun l => (l.1, some value) }

end Given

/-- What may stand at a place of the command line. -/
structure Place where
  flags : List Flag
  /-- The commands that may be named there. -/
  commands : List Command
  deriving Repr

def Place.beforeCommand : Place := ⟨[debugFlag], Command.all⟩

def Place.after (c : Command) : Place := ⟨c.flags, []⟩

namespace Place

/-- Whether `word` names a command or asks for help about one. -/
def namesCommand (p : Place) (word : String) : Bool :=
  !p.commands.isEmpty && (word == "help" || p.commands.any fun c => c.name == word)

/-- Reads a long flag, which stands after two dashes. -/
def readLong (p : Place) (g : Given) (text : String) : Except UsageNotice Given := do
  let (name, value) : String × Option String := match Text.cut '=' text with
    | some (name, value) => (name, some value)
    | none => (text, none)
  let notice : Option UsageNotice :=
    if name = "help" then some .helpWanted
    else if name = "version" ∧ !p.commands.isEmpty then some .versionWanted
    else none
  match notice, p.flags.any fun f => f.name == name, value with
  | some _, _, some _ => .error .unexpectedValue
  | some notice, _, none => do let _ ← g.settle; .error notice
  | none, false, _ => .error .unknownArgument
  | none, true, some value => do (← g.settle).add name value
  | none, true, none => do return { ← g.settle with last := some (name, none) }

/-- Reads a short flag, none of which takes a value. -/
def readShort (p : Place) (g : Given) (letter : Char) : Except UsageNotice Given := do
  if letter = 'h' then do let _ ← g.settle; .error .helpWanted
  else if letter = 'V' ∧ !p.commands.isEmpty then do let _ ← g.settle; .error .versionWanted
  else .error .unknownArgument

/-- What an argument is at a place where no flag can begin. -/
def stray (p : Place) : UsageNotice :=
  if p.commands.isEmpty then .unknownArgument else .unknownCommand

/-- Reads arguments up to a command and gives the rest from the command on. -/
def read (p : Place) : List String → Given → Except UsageNotice (Given × List String)
  | [], g => .ok (g, [])
  | word :: rest, g =>
    if !g.awaitsValue && p.namesCommand word then .ok (g, word :: rest)
    else
      match word.toList with
      | ['-', '-'] =>
        match rest with
        | [] => .ok (g, [])
        | next :: _ => .error (if p.namesCommand next then .unknownArgument else p.stray)
      | '-' :: '-' :: text => do p.read rest (← p.readLong g (String.ofList text))
      | '-' :: letter :: _ => do p.read rest (← p.readShort g letter)
      | _ => if g.awaitsValue then p.read rest (g.withValue word) else .error p.stray

end Place

/-- What comes of asking for help about `words`: a command knows no further ones. -/
def helpAbout : List String → UsageNotice
  | [] => .helpWanted
  | [word] => if word = "help" ∨ (Command.ofName? word).isSome then .helpWanted else .unknownCommand
  | _ :: _ :: _ => .unknownCommand

/-- A command with the values of its flags by their names. -/
structure Invocation where
  command : Command
  values : Dict String

namespace Invocation

/-- The values of flags that are not given, as the environment has them. -/
def fromEnvironment (env : String → Option String) (flags : List Flag) : List (String × String) :=
  flags.filterMap fun f => (env f.envName).map fun value => (f.name, value)

def parse (env : String → Option String) (args : List String) : Except UsageNotice Invocation := do
  let (before, rest) ← Place.beforeCommand.read args {}
  match rest with
  | [] =>
    let before ← before.settle
    let isSilent := before.values.isEmpty && (env debugFlag.envName).isNone
    .error (if isSilent then .nothingGiven else .missingCommand)
  | word :: words =>
    match Command.ofName? word with
    | none => .error (helpAbout words)
    | some c => do
      let (after, _) ← (Place.after c).read words {}
      let after ← after.settle
      let before ← before.settle
      return ⟨c,
        .ofList (fromEnvironment env c.flags ++ before.values ++ after.values)⟩

def value? (i : Invocation) (flag : String) : Option String := i.values.get? flag

end Invocation

end PodWorkspace.CommandLine
