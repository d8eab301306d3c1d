import GoStubs.Json.Value

/-!
# Printing JSON

Arrays and objects have one entry a line, two spaces deeper than their braces;
empty ones stay on one line.
-/

namespace GoStubs.Json

/-- The four hexadecimal digits of a code point below 65536. -/
def fourHex (n : Nat) : Text :=
  let digits := Nat.toDigits 16 n
  List.replicate (4 - digits.length) '0' ++ digits

def escapeChar (c : Char) : Text :=
  if c = '"' then ['\\', '"']
  else if c = '\\' then ['\\', '\\']
  else if c = '\n' then ['\\', 'n']
  else if c = '\r' then ['\\', 'r']
  else if c = '\t' then ['\\', 't']
  else if c = '\x08' then ['\\', 'b']
  else if c = '\x0c' then ['\\', 'f']
  else if c.toNat < 0x20 then '\\' :: 'u' :: fourHex c.toNat
  else [c]

def quote (text : Text) : Text := '"' :: text.flatMap escapeChar ++ ['"']

def margin (depth : Nat) : Text := List.replicate (2 * depth) ' '

/-- Entries between two braces, one a line. -/
def block (depth : Nat) (opening closing : Char) (entries : List Text) : Text :=
  if entries.isEmpty then [opening, closing]
  else
    let lines := entries.map fun entry => '\n' :: margin (depth + 1) ++ entry
    opening :: [','].intercalate lines ++ '\n' :: margin depth ++ [closing]

mutual

/-- The text of a value that stands `depth` levels deep. -/
def print (depth : Nat) : Json → Text
  | .null => "null".toList
  | .bool value => boolText value
  | .number value => value.text
  | .string value => quote value
  | .array items => block depth '[' ']' (printItems (depth + 1) items)
  | .object fields => block depth '\x7b' '\x7d' (printFields (depth + 1) fields)

def printItems (depth : Nat) : List Json → List Text
  | [] => []
  | item :: rest => item.print depth :: printItems depth rest

def printFields (depth : Nat) : List (Text × Json) → List Text
  | [] => []
  | (key, value) :: rest =>
    (quote key ++ ':' :: ' ' :: value.print depth) :: printFields depth rest

end

end GoStubs.Json
