import GoStubs.Go.Bracket
import GoStubs.Go.Identifier

/-!
# Parameter and result lists

A list is either all named or all unnamed. In a named list a bare identifier
takes the type of the next entry that has one, so each run of names that ends
at a typed entry is one group.
-/

namespace GoStubs.Go

open Text (isBlank trimStart trimEnd trim collapse breakAt?)

inductive SignatureError
  | missingName
  | notAMethod (declaration : Text)
  | unbalanced
  | trailingText (trailing : Text)
  | missingType (names : List Text)
  | mixedNaming (list : Text)
  deriving DecidableEq, Repr

def SignatureError.message : SignatureError → Text
  | .missingName => "missing method name".toList
  | .notAMethod declaration => "'".toList ++ declaration ++ "' is not a method declaration".toList
  | .unbalanced => "unbalanced parentheses".toList
  | .trailingText trailing =>
    "unexpected text after results: '".toList ++ trailing ++ "'".toList
  | .missingType names =>
    "parameter names without a type: ".toList ++ ", ".toList.intercalate names
  | .mixedNaming list =>
    "mixed named and unnamed parameters: '".toList ++ list ++ "'".toList

/-- A parameter or a result; `type` has its blank runs collapsed. -/
structure Field where
  name : Option Text
  type : Text
  deriving DecidableEq, Repr

namespace Field

def dots : Text := "...".toList

def isVariadic (field : Field) : Bool := dots.isPrefixOf field.type

def isContext (field : Field) : Bool := field.type == "context.Context".toList

inductive Entry
  | named (name type : Text)
  | bare (text : Text)
  deriving DecidableEq, Repr

/-- Reads an entry `name Type` or `name...Type`; any other text is a bare entry. -/
def Entry.ofText (text : Text) : Entry :=
  let head := text.takeWhile (! isBlank ·)
  let tail := trimStart (text.dropWhile (! isBlank ·))
  if isIdentifier head && !tail.isEmpty then .named head tail
  else match breakAt? dots text with
    | some (before, type) =>
      if isIdentifier (trimEnd before) then .named (trimEnd before) type else .bare text
    | none => .bare text

def Entry.isBare : Entry → Bool
  | .named .. => false
  | .bare _ => true

/-- The fields of a named list, after names that still lack a type. -/
def ofGroups (list : Text) (pending : List Text) : List Entry → Except SignatureError (List Field)
  | [] => if pending.isEmpty then .ok [] else .error (.missingType pending)
  | .named name type :: rest => do
    let fields ← ofGroups list [] rest
    return (pending ++ [name]).map (⟨some ·, collapse type⟩) ++ fields
  | .bare text :: rest =>
    if isIdentifier text then ofGroups list (pending ++ [text]) rest
    else .error (.mixedNaming (trim list))

/-- Reads a parameter or result list: the text between its parentheses. -/
def ofList (list : Text) : Except SignatureError (List Field) :=
  let texts := Bracket.entries list
  let entries := texts.map Entry.ofText
  if entries.all Entry.isBare then .ok (texts.map (⟨none, collapse ·⟩))
  else ofGroups list [] entries

end Field

end GoStubs.Go
