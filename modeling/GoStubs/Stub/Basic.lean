import GoStubs.Stub.Layout
import GoStubs.Settings.Basic

/-!
# Stubs

The text of a stub is its base followed by its wrappers, one for each method in
the order of declaration.
-/

namespace GoStubs.Stub

/-- What the layout of the base is filled with. Imports have their quotes. -/
def baseContext (settings : Settings) (package service : Text) (imports : List Text) : Json :=
  .object [
    ("generator".toList, .string settings.generatorName),
    ("package".toList, .string package),
    ("service".toList, .string service),
    ("client_import".toList, .string settings.clientImport),
    ("package_imports".toList, .array (imports.map .string))]

def base (settings : Settings) (package service : Text) (imports : List Text) :
    Except Fault Text :=
  shelf.fill baseName (baseContext settings package service imports)

def wrapperContext (service : Text) (method : Method) : Json :=
  .object [
    ("service".toList, .string service),
    ("action".toList, .string method.action),
    ("response_type".toList, .string method.responseType),
    ("zero_response_expr".toList, .string method.zeroResponse)]

def wrapper (service : Text) (method : Method) : Except Fault Text :=
  shelf.fill wrapperName (wrapperContext service method)

def wrappers (service : Text) : List Method → Except Fault Text
  | [] => .ok []
  | method :: rest => do
    let text ← wrapper service method
    let texts ← wrappers service rest
    return text ++ texts

end GoStubs.Stub
