import GoStubs.Go.Field

/-!
# Method signatures

A method declaration is a name, a parenthesised parameter list, and results: a
parenthesised list, one bare type, or nothing.
-/

namespace GoStubs.Go

open Text (isWordChar trim trimStart collapse)

structure Signature where
  name : Text
  params : List Field
  results : List Field
  deriving DecidableEq, Repr

namespace Signature

/-- Reads what follows the parameter list. -/
def resultList (text : Text) : Except SignatureError (List Field) :=
  match text with
  | [] => .ok []
  | '(' :: inner =>
    match Bracket.closing? '(' ')' inner with
    | none => .error .unbalanced
    | some (list, after) =>
      let trailing := trim after
      if trailing.isEmpty then Field.ofList list else .error (.trailingText trailing)
  | text =>
    if (Bracket.closing? '(' ')' text).isSome then .error .unbalanced
    else .ok [⟨none, collapse text⟩]

def ofDeclaration (declaration : Text) : Except SignatureError Signature :=
  let declaration := trim declaration
  let name := declaration.takeWhile isWordChar
  if !isIdentifier name then .error .missingName
  else match trimStart (declaration.dropWhile isWordChar) with
    | '(' :: inner =>
      match Bracket.closing? '(' ')' inner with
      | none => .error .unbalanced
      | some (list, after) => do
        let params ← Field.ofList list
        let results ← resultList (trim after)
        return { name, params, results }
    | _ => .error (.notAMethod declaration)

end Signature

end GoStubs.Go
