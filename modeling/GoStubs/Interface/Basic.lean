import GoStubs.Go.Signature
import GoStubs.Service

/-!
# Client interfaces

What an interface file declares: a service, the methods of its `Client`
interface, and the imports that its types need. The module also lists why a
file may fail to declare one.
-/

namespace GoStubs

/-- A method of a client interface, as its wrapper needs it. -/
structure Method where
  action : Text
  requestType : Text
  responseType : Text
  /-- An expression for an empty response. -/
  zeroResponse : Text
  deriving DecidableEq, Repr

structure Interface where
  service : Service
  methods : List Method
  /-- Import paths with their quotes. -/
  imports : List Text
  deriving DecidableEq, Repr

/-- Why a result list has no response that a wrapper can return. -/
inductive ResultFault
  | noResults
  | lastNotError
  | onlyError
  | notAPointer
  deriving DecidableEq, Repr

def ResultFault.message : ResultFault → Text
  | .noResults => "method has no results".toList
  | .lastNotError => "last result must be error".toList
  | .onlyError => "method returns only an error".toList
  | .notAPointer => "response must be a pointer type".toList

/-- Why a file declares no usable client interface. -/
inductive InterfaceError
  | missingPackage
  | missingInterface
  | unterminated
  | malformedMethod (declaration : Text) (cause : Go.SignatureError)
  | missingRequest (action : Text)
  | unsupportedResults (action : Text) (reason : ResultFault)
  | invalidPackage (name : Text)
  deriving DecidableEq, Repr

namespace InterfaceError

def message : InterfaceError → Text
  | .missingPackage => "package declaration not found".toList
  | .missingInterface => "'type Client interface' declaration not found".toList
  | .unterminated => "'type Client interface' block is not terminated".toList
  | .malformedMethod declaration cause =>
    "malformed method declaration '".toList ++ declaration ++ "': ".toList ++ cause.message
  | .missingRequest action =>
    "method '".toList ++ action ++ "' has no request parameter".toList
  | .unsupportedResults action reason =>
    "method '".toList ++ action ++ "' has an unsupported result list: ".toList ++ reason.message
  | .invalidPackage name => "'".toList ++ name ++ "' is not a valid Go package name".toList

def causes : InterfaceError → List Text
  | .malformedMethod _ cause => [cause.message]
  | _ => []

end InterfaceError

def checkPackageName (name : Text) : Except InterfaceError Unit :=
  if Go.isPackageName name then .ok () else .error (.invalidPackage name)

theorem checkPackageName_eq_ok_iff {name : Text} :
    checkPackageName name = .ok () ↔ Go.isPackageName name := by
  unfold checkPackageName
  split <;> simp_all

end GoStubs
