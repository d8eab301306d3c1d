import GoStubs.Interface.Basic
import GoStubs.Path

/-!
# Faults

What may go wrong while stubs are generated. A fault has a message and a chain
of causes; a failure is a fault with the contexts in which it came up. Faults
of the input and faults of the surroundings end with different exit codes.
-/

namespace GoStubs

inductive DiskError
  | notFound
  | alreadyExists
  | notADirectory
  | isADirectory
  | nameTooLong
  | nulInPath
  | invalidUtf8
  deriving DecidableEq, Repr

def DiskError.message : DiskError → Text
  | .notFound => "No such file or directory (os error 2)".toList
  | .alreadyExists => "File exists (os error 17)".toList
  | .notADirectory => "Not a directory (os error 20)".toList
  | .isADirectory => "Is a directory (os error 21)".toList
  | .nameTooLong => "File name too long (os error 36)".toList
  | .nulInPath => "file name contained an unexpected NUL byte".toList
  | .invalidUtf8 => "stream did not contain valid UTF-8".toList

inductive Cause
  | disk (error : DiskError)
  /-- A directory that a walk cannot go into. -/
  | walk (path : Path) (error : DiskError)
  | interface (error : InterfaceError)
  | note (text : Text)
  deriving DecidableEq, Repr

def Cause.message : Cause → Text
  | .disk error => error.message
  | .walk path error =>
    "IO error for operation on ".toList ++ path.text ++ ": ".toList ++ error.message
  | .interface error => error.message
  | .note text => text

/-- The messages of a cause and of the causes behind it. -/
def Cause.chain (cause : Cause) : List Text :=
  cause.message :: match cause with
    | .walk _ error => [error.message]
    | .interface error => error.causes
    | .disk _ | .note _ => []

inductive Fault
  | io (path : Path) (cause : Cause)
  | scanFailed (path : Path) (cause : Cause)
  | extractionFailed (path : Path) (cause : Cause)
  | moduleNotFound (manifest : Path)
  | template (message : Text) (cause : Option Text)
  | configuration (message : Text)
  | invalidArgument (message : Text)
  deriving DecidableEq, Repr

namespace Fault

def message : Fault → Text
  | .io path cause => "I/O error at ".toList ++ path.text ++ ": ".toList ++ cause.message
  | .scanFailed path _ => "Failed to scan ".toList ++ path.text
  | .extractionFailed path _ =>
    "Failed to extract client interface from ".toList ++ path.text
  | .moduleNotFound manifest => "No module declaration found in ".toList ++ manifest.text
  | .template message _ => "Template error: ".toList ++ message
  | .configuration message => "Configuration error: ".toList ++ message
  | .invalidArgument message => "Invalid argument: ".toList ++ message

/-- The messages of the causes, the nearest first. -/
def causes : Fault → List Text
  | .io _ cause => cause.chain
  | .scanFailed _ cause => cause.chain
  | .extractionFailed _ cause => cause.chain
  | .template _ cause => cause.toList
  | _ => []

def chain (fault : Fault) : List Text := fault.message :: fault.causes

def line (fault : Fault) : Text := ": ".toList.intercalate fault.chain

/-- Whether the input is at fault, rather than the surroundings. -/
def isInput : Fault → Bool
  | .extractionFailed .. | .moduleNotFound _ | .configuration _ | .invalidArgument _ => true
  | .io .. | .scanFailed .. | .template .. => false

end Fault

inductive Origin
  | fault (fault : Fault)
  | other (text : Text)
  deriving DecidableEq, Repr

def Origin.chain : Origin → List Text
  | .fault known => known.chain
  | .other text => [text]

/-- A fault with the contexts in which it came up, the outermost first. -/
structure Failure where
  contexts : List Text
  origin : Origin
  deriving DecidableEq, Repr

namespace Failure

def ofFault (fault : Fault) : Failure := ⟨[], .fault fault⟩

def within (context : Text) (failure : Failure) : Failure :=
  { failure with contexts := context :: failure.contexts }

/-- The contexts, the message and all causes on one line. -/
def line (failure : Failure) : Text :=
  ": ".toList.intercalate (failure.contexts ++ failure.origin.chain)

/-- Contexts do not change whose fault it is. -/
def isInput (failure : Failure) : Bool :=
  match failure.origin with
  | .fault known => known.isInput
  | .other _ => false

@[simp] theorem isInput_within (context : Text) (failure : Failure) :
    (failure.within context).isInput = failure.isInput := rfl

end Failure

end GoStubs
