import GoStubs.Json.Printer
import GoStubs.Json.Leaves
import GoStubs.Json.Outline
import GoStubs.Text.Casing.Lower
import GoStubs.Fault

/-!
# Output formats and exit codes

Results print as JSON in their declared order, or with sorted fields as plain
text or as an outline.
-/

namespace GoStubs

inductive OutputFormat
  | json
  | text
  | pretty
  deriving DecidableEq, Repr

namespace OutputFormat

def name : OutputFormat → Text
  | .json => "json".toList
  | .text => "text".toList
  | .pretty => "pretty".toList

def all : List OutputFormat := [.json, .text, .pretty]

/-- The format of a name in any case. -/
def ofName? (name : Text) : Option OutputFormat :=
  all.find? fun format => format.name == Text.lower name

def ofName (name : Text) : Except Fault OutputFormat :=
  match ofName? name with
  | some format => .ok format
  | none => .error (.invalidArgument
      ("invalid output format: '".toList ++ name ++ "' (expected: json, text, or pretty)".toList))

def format (output : OutputFormat) (colour : Bool) (value : Json) : Text :=
  match output with
  | .json => value.print 0
  | .text => value.sorted.plain
  | .pretty => value.sorted.outline colour 0

end OutputFormat

structure ExitCode where
  code : Int32
  deriving DecidableEq, Repr

namespace ExitCode

def success : ExitCode := ⟨0⟩

/-- An interface file, or the run as a whole, has failed. -/
def failure : ExitCode := ⟨1⟩

/-- The input or the arguments are not acceptable. -/
def invalidInput : ExitCode := ⟨2⟩

def ofFailure (cause : Failure) : ExitCode := if cause.isInput then invalidInput else failure

def isSuccess (exit : ExitCode) : Bool := exit.code == 0

end ExitCode

end GoStubs
