import GoStubs.Command.Flag

/-!
# Command lines

Arguments are read from left to right, and the first thing that is wrong or
that asks for help or for the version decides. A flag is given at most once on
each level; behind the subcommand it prevails. A value that is an argument of
its own is checked when the next flag comes, or at the end of its level.
-/

namespace GoStubs.Command

inductive Misuse
  | unexpected (argument : Text)
  | missingValue (flag : Flag)
  | unwantedValue (flag : Flag)
  | invalidValue (flag : Flag) (value : Text)
  | repeated (flag : Flag)
  | missingSubcommand
  | unknownSubcommand (name : Text)
  | missingShell
  deriving DecidableEq, Repr

inductive Topic
  | program
  | subcommand (subcommand : Subcommand)
  | help
  deriving DecidableEq, Repr

/-- Why reading a command line stops before its end. -/
inductive Stop
  | help (topic : Topic)
  | version
  | misuse (reason : Misuse)
  deriving DecidableEq, Repr

/-- What has been given on a level: values that have been checked, and the last one if it is not
checked yet. -/
structure Given where
  values : List (Flag × Text)
  pending : Option (Flag × Text)

namespace Given

def nothing : Given := ⟨[], none⟩

/-- Checks the pending value. -/
def settle (given : Given) : Except Stop Given :=
  match given.pending with
  | none => .ok given
  | some (flag, value) =>
    if (given.values.lookup flag).isSome then .error (.misuse (.repeated flag))
    else if flag.admits value then .ok ⟨(flag, value) :: given.values, none⟩
    else .error (.misuse (.invalidValue flag value))

/-- Gives a value that is not checked yet. -/
def await (given : Given) (flag : Flag) (value : Text) : Except Stop Given := do
  let given ← given.settle
  return { given with pending := some (flag, value) }

/-- Gives a value and checks it. -/
def attach (given : Given) (flag : Flag) (value : Text) : Except Stop Given := do
  let given ← given.await flag value
  given.settle

end Given

def topicOf : Option Subcommand → Topic
  | none => .program
  | some subcommand => .subcommand subcommand

/-- Gives a flag that has no value. -/
def raise (level : Option Subcommand) (given : Given) (flag : Flag) : Except Stop Given := do
  let given ← given.settle
  match flag with
  | .help => throw (.help (topicOf level))
  | .version => throw .version
  | _ => given.attach flag []

/-- Reads the letters after a single dash; the flag in the result still needs its value. -/
def readLetters (level : Option Subcommand) (given : Given) :
    Text → Except Stop (Given × Option Flag)
  | [] => .ok (given, none)
  | c :: rest =>
    match (Flag.ofLevel level).find? fun flag => flag.letter? == some c with
    | none => .error (.misuse (.unexpected ['-', c]))
    | some flag =>
      if flag.takesValue then
        match rest with
        | [] => do return (← given.settle, some flag)
        | '=' :: value => do return (← given.attach flag value, none)
        | value => do return (← given.attach flag value, none)
      else do readLetters level (← raise level given flag) rest

/-- Reads what follows two dashes; the flag in the result still needs its value. -/
def readName (level : Option Subcommand) (given : Given) (argument : Text) :
    Except Stop (Given × Option Flag) :=
  let name := argument.takeWhile (· != '=')
  match (Flag.ofLevel level).find? fun flag => flag.name == name with
  | none => .error (.misuse (.unexpected ('-' :: '-' :: name)))
  | some flag =>
    match argument.dropWhile (· != '=') with
    | [] =>
      if flag.takesValue then do return (← given.settle, some flag)
      else do return (← raise level given flag, none)
    | _ :: value =>
      if flag.takesValue then do return (← given.attach flag value, none)
      else .error (.misuse (.unwantedValue flag))

def isDashed (argument : Text) : Bool := argument.head? == some '-' && argument != ['-']

def dashes : Text := ['-', '-']

/-- Reads flags and their values up to the first argument that is neither. -/
def readFlags (level : Option Subcommand) (given : Given) :
    List Text → Except Stop (Given × List Text)
  | [] => .ok (given, [])
  | argument :: rest =>
    if !isDashed argument ∨ argument = dashes then .ok (given, argument :: rest)
    else do
      let (given, awaiting) ← match Text.dropPrefix? dashes argument with
        | some name => readName level given name
        | none => readLetters level given argument.tail
      match awaiting, rest with
      | none, rest => readFlags level given rest
      | some flag, [] => throw (.misuse (.missingValue flag))
      | some flag, value :: rest =>
        if isDashed value then throw (.misuse (.missingValue flag))
        else readFlags level { given with pending := some (flag, value) } rest

/-- Reads the name of a shell, and the flags behind it. -/
def readShell (given : Given) : List Text → Except Stop (Given × List Text)
  | [] => .ok (given, [])
  | name :: rest =>
    if name = dashes then .ok (given, name :: rest)
    else do readFlags (some .completions) (← given.await .shell name) rest

/-- Reads what is left when the flags have ended: two dashes, and behind them the name of a shell
if the subcommand takes one. -/
def readEnd (subcommand : Subcommand) (given : Given) : List Text → Except Stop Given
  | [] => .ok given
  | [mark] => if mark = dashes then .ok given else .error (.misuse (.unexpected mark))
  | mark :: name :: more =>
    if mark = dashes ∧ subcommand = .completions ∧ more = [] then given.await .shell name
    else .error (.misuse (.unexpected (if mark = dashes then name else mark)))

/-- Reads what stands behind a subcommand. -/
def readBehind (subcommand : Subcommand) (arguments : List Text) :
    Except Stop (List (Flag × Text)) := do
  let (given, rest) ← readFlags (some subcommand) .nothing arguments
  let (given, rest) ←
    if subcommand = .completions then readShell given rest else .ok (given, rest)
  let given ← readEnd subcommand given rest
  return (← given.settle).values

def readTopic : List Text → Except Stop Topic
  | [] => .ok .program
  | [name] =>
    if name = "help".toList then .ok .help
    else match Subcommand.ofName? name with
      | some subcommand => .ok (.subcommand subcommand)
      | none => .error (.misuse (.unknownSubcommand name))
  | _ :: name :: _ => .error (.misuse (.unknownSubcommand name))

/-- A command and the name of the format for its result. -/
structure Invocation where
  command : Command
  format : Text
  deriving DecidableEq, Repr

def ofValues (subcommand : Subcommand) (values : List (Flag × Text)) : Except Stop Command :=
  let root := Path.mk ((values.lookup .root).getD ['.'])
  let config := (values.lookup .config).map Path.mk
  match subcommand with
  | .generate =>
    let policy := if (values.lookup .failFast).isSome then .failFast else .keepGoing
    .ok (.generate root config policy (values.lookup .dryRun).isSome)
  | .scan => .ok (.scan root config)
  | .completions =>
    match values.lookup .shell >>= Shell.ofName? with
    | some shell => .ok (.completions shell)
    | none => .error (.misuse .missingShell)

/-- Reads a command line, without the name of the program. -/
def read (arguments : List Text) : Except Stop Invocation := do
  let (given, rest) ← readFlags none .nothing arguments
  match rest with
  | [] => throw (.misuse .missingSubcommand)
  | name :: behind =>
    if name = "help".toList then throw (.help (← readTopic behind))
    match Subcommand.ofName? name with
    | none => throw (.misuse (.unknownSubcommand name))
    | some subcommand =>
      let values ← readBehind subcommand behind
      let command ← ofValues subcommand values
      let given ← given.settle
      let format := (values.lookup .format <|> given.values.lookup .format).getD "pretty".toList
      return { command, format }

end GoStubs.Command
