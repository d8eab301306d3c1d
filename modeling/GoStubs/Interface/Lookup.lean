import GoStubs.Interface.Basic

/-!
# Looking up the clauses of an interface file

The package clause, the header of the `Client` interface and the import
literals are found by their first words on a line, in the text as it is.
Blanks in front of a clause and between its words are spaces and tabs.
-/

namespace GoStubs.Interface

open Text (isSpace)

def skipSpaces (text : Text) : Text := text.dropWhile isSpace

/-- What follows `word` at the start of a text. -/
def after? (word : String) (text : Text) : Option Text := Text.dropPrefix? word.toList text

def afterSpaces? (text : Text) : Option Text :=
  if text.head?.any isSpace then some (skipSpaces text) else none

/-- The first result of `read` at the start of a line; `start` tells whether the text starts
one. -/
def firstLine? {α : Type} (read : Text → Option α) (start : Bool) : Text → Option α
  | [] => if start then read [] else none
  | c :: rest =>
    match if start then read (c :: rest) else none with
    | some found => some found
    | none => firstLine? read (c == '\n') rest

def isPlainLetter (c : Char) : Bool := c.isAlpha || c == '_'

def isPlainWordChar (c : Char) : Bool := c.isAlphanum || c == '_'

/-- The name in a package clause at the start of a text. -/
def packageClause? (text : Text) : Option Text := do
  let name ← after? "package" (skipSpaces text) >>= afterSpaces?
  if name.head?.any isPlainLetter then some (name.takeWhile isPlainWordChar) else none

/-- What follows the opening brace of a `Client` interface at the start of a text. -/
def clientHeader? (text : Text) : Option Text := do
  let client ← after? "type" (skipSpaces text) >>= afterSpaces?
  let keyword ← after? "Client" client >>= afterSpaces?
  let brace ← after? "interface" keyword
  Text.dropPrefix? ['\x7b'] (skipSpaces brace)

def findService (content : Text) : Except InterfaceError Service :=
  match firstLine? packageClause? true content with
  | some package => .ok (.ofPackage package)
  | none => .error .missingPackage

/-- The double-quoted literals of a text, with their quotes; a literal ends on the line where it
starts. The first argument is the literal being read, reversed. -/
def literalsFrom : Option Text → Text → List Text
  | _, [] => []
  | none, c :: rest => literalsFrom (if c = '"' then some [c] else none) rest
  | some literal, c :: rest =>
    if c = '"' then (c :: literal).reverse :: literalsFrom none rest
    else literalsFrom (if c = '\n' then none else some (c :: literal)) rest

/-- The literals that contain `marker`, each once, in the order of their first places. -/
def findImports (marker content : Text) : List Text :=
  ((literalsFrom none content).filter (Text.includes marker)).eraseDups

end GoStubs.Interface
