import GoStubs.Command.Execute

/-!
# The program

The program follows a command line on a disk. It prints a result, a page of
help or an error, ends with an exit code, and leaves a disk.
-/

namespace GoStubs

/-- What the program leaves besides the disk. -/
structure Outcome where
  exit : ExitCode
  stdout : Text
  stderr : Text
  deriving DecidableEq, Repr

namespace Outcome

def ofEnding (ending : Ending) : Outcome := ⟨ending.exit, ending.printed, []⟩

/-- A failure is one line on the standard error. -/
def ofFailure (failure : Failure) : Outcome :=
  ⟨.ofFailure failure, [], "Error: ".toList ++ failure.line ++ ['\n']⟩

def ofStop (library : Library) : Command.Stop → Outcome
  | .help topic => ⟨.success, library.page topic, []⟩
  | .version => ⟨.success, library.version, []⟩
  | .misuse reason => ⟨.invalidInput, [], library.complaint reason⟩

end Outcome

namespace Command

def execute (output : OutputFormat) (colour : Bool) (command : Command) (disk : Disk)
    (library : Library := .brief) : Except Failure Ending × Disk :=
  match command with
  | .generate root config policy dry =>
    runGenerate output colour root config policy dry disk library
  | .scan root config => (runScan output colour root config disk library, disk)
  | .completions shell => (.ok ⟨.success, library.script shell⟩, disk)

/-- Executes a command with the name of a format, which is checked first. -/
def invoke (colour : Bool) (invocation : Invocation) (disk : Disk) (library : Library := .brief) :
    Except Failure Ending × Disk :=
  match OutputFormat.ofName invocation.format with
  | .error fault => (.error (.ofFault fault), disk)
  | .ok output => invocation.command.execute output colour disk library

def follow (colour : Bool) (arguments : List Text) (disk : Disk) (library : Library := .brief) :
    Outcome × Disk :=
  match read arguments with
  | .error stop => (.ofStop library stop, disk)
  | .ok invocation =>
    match invoke colour invocation disk library with
    | (.ok ending, disk) => (.ofEnding ending, disk)
    | (.error failure, disk) => (.ofFailure failure, disk)

end Command

end GoStubs
