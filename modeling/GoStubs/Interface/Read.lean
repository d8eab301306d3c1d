import GoStubs.Go.Comment
import GoStubs.Interface.Lookup

/-!
# Reading an interface file

The methods stand between the braces of the `Client` interface, with comments
removed. A wrapper needs a request, which is the first parameter that is
neither a context nor variadic, and a pointer result in front of a last result
of type `error`.
-/

namespace GoStubs

namespace Method

/-- The type that the response points to, and the response's own type. -/
def response (results : List Go.Field) : Except ResultFault (Text × Text) :=
  match results.getLast? with
  | none => .error .noResults
  | some last =>
    if last.type ≠ "error".toList then .error .lastNotError
    else match results.dropLast with
      | [] => .error .onlyError
      | first :: _ =>
        match first.type with
        | '*' :: rest =>
          let pointee := Text.trim rest
          if pointee.isEmpty then .error .notAPointer else .ok (pointee, first.type)
        | _ => .error .notAPointer

def request? (params : List Go.Field) : Option Go.Field :=
  params.find? fun field => !field.isContext && !field.isVariadic

def ofSignature (signature : Go.Signature) : Except InterfaceError Method :=
  match request? signature.params with
  | none => .error (.missingRequest signature.name)
  | some request =>
    match response signature.results with
    | .error reason => .error (.unsupportedResults signature.name reason)
    | .ok (pointee, responseType) =>
      .ok {
        action := signature.name
        requestType := request.type
        responseType
        zeroResponse := '&' :: pointee ++ "\x7b\x7d".toList }

def ofDeclaration (declaration : Text) : Except InterfaceError Method :=
  match Go.Signature.ofDeclaration declaration with
  | .error cause => .error (.malformedMethod declaration cause)
  | .ok signature => ofSignature signature

end Method

namespace Interface

/-- The methods of the first `Client` interface, or what is wrong with the first bad one. -/
def findMethods (content : Text) : Except InterfaceError (List Method) :=
  match firstLine? clientHeader? true content with
  | none => .error .missingInterface
  | some rest =>
    match Go.Bracket.closing? '\x7b' '\x7d' (Go.Comment.strip rest) with
    | none => .error .unterminated
    | some (body, _) => (Go.Bracket.declarations body).mapM Method.ofDeclaration

/-- Reads an interface file; `marker` tells its imports of interface types. -/
def ofContent (marker content : Text) : Except InterfaceError Interface := do
  let service ← findService content
  let methods ← findMethods content
  return { service, methods, imports := findImports marker content }

end Interface

end GoStubs
