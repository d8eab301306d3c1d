import GoStubs.Text.Blank

/-!
# Flat TOML documents

A configuration file is a TOML document whose entries all have a bare or quoted
key and a string. The reader accepts these documents and no others: with a
table, a dotted key or a value of another kind a document is of no use here.
-/

namespace GoStubs.Toml

open Text (isSpace)

/-- Characters that may stand in a comment or in a string: no control characters but the tab. -/
def isPrintable (c : Char) : Bool := c == '\t' || (0x20 ≤ c.toNat && c != '\x7f')

def isKeyChar (c : Char) : Bool := c.isAlphanum || c == '_' || c == '-'

/-- What follows a newline, with or without a carriage return, at the start of a text. -/
def afterNewline? : Text → Option Text
  | '\n' :: rest => some rest
  | '\r' :: '\n' :: rest => some rest
  | _ => none

def shortEscape? : Char → Option Char
  | 'b' => some '\x08'
  | 't' => some '\t'
  | 'n' => some '\n'
  | 'f' => some '\x0c'
  | 'r' => some '\r'
  | 'e' => some '\x1b'
  | '"' => some '"'
  | '\\' => some '\\'
  | _ => none

/-- The number of hexadecimal digits after the letter of a longer escape sequence. -/
def hexLength? : Char → Option Nat
  | 'x' => some 2
  | 'u' => some 4
  | 'U' => some 8
  | _ => none

def hexDigit? (c : Char) : Option Nat :=
  if c.isDigit then some (c.toNat - '0'.toNat)
  else if 'a' ≤ c ∧ c ≤ 'f' then some (c.toNat - 'a'.toNat + 10)
  else if 'A' ≤ c ∧ c ≤ 'F' then some (c.toNat - 'A'.toNat + 10)
  else none

def ofHex? (digits : Text) : Option Char := do
  let values ← digits.mapM hexDigit?
  let value := values.foldl (fun n digit => 16 * n + digit) 0
  if value.isValidChar then some (Char.ofNat value) else none

/-- Reads what follows a backslash. -/
def escape? : Text → Option (Char × Text)
  | [] => none
  | c :: rest =>
    match hexLength? c with
    | some length => if rest.length < length then none else do
        let char ← ofHex? (rest.take length)
        return (char, rest.drop length)
    | none => (shortEscape? c).map (·, rest)

/-- Reads a string between double quotes, after its opening quote. -/
def basicWithin : Nat → Text → Option (Text × Text)
  | 0, _ | _, [] => none
  | fuel + 1, c :: rest =>
    if c = '"' then some ([], rest)
    else if c = '\\' then do
      let (char, rest) ← escape? rest
      let (value, rest) ← basicWithin fuel rest
      return (char :: value, rest)
    else if isPrintable c then do
      let (value, rest) ← basicWithin fuel rest
      return (c :: value, rest)
    else none

/-- Drops blanks and newlines, after a backslash at the end of a line. -/
def skipGap : Nat → Text → Text
  | 0, text => text
  | fuel + 1, text =>
    match afterNewline? text with
    | some rest => skipGap fuel rest
    | none => match text with
      | c :: rest => if isSpace c then skipGap fuel rest else text
      | [] => []

/-- Reads a multi-line string after its opening quotes: `quote` three times ends it, and up to two
more may stand in front of them. Backslashes escape unless the string is `raw`. -/
def multilineWithin (quote : Char) (raw : Bool) : Nat → Text → Option (Text × Text)
  | 0, _ | _, [] => none
  | fuel + 1, c :: rest =>
    if c = quote then
      let run := (c :: rest).takeWhile (· == quote)
      if 3 ≤ run.length then
        if run.length ≤ 5 then
          some (run.drop 3, (c :: rest).drop run.length)
        else none
      else do
        let (value, rest) ← multilineWithin quote raw fuel ((c :: rest).drop run.length)
        return (run ++ value, rest)
    else if c = '\\' ∧ !raw then
      match afterNewline? (rest.dropWhile isSpace) with
      | some _ => multilineWithin quote raw fuel (skipGap rest.length rest)
      | none => do
        let (char, rest) ← escape? rest
        let (value, rest) ← multilineWithin quote raw fuel rest
        return (char :: value, rest)
    else if isPrintable c ∨ (afterNewline? (c :: rest)).isSome ∨ c = '\n' then do
      let (value, rest) ← multilineWithin quote raw fuel rest
      return (c :: value, rest)
    else none

/-- Reads a string without escapes, after its opening quote. -/
def literal? (text : Text) : Option (Text × Text) :=
  let value := text.takeWhile (· != '\'')
  match text.dropWhile (· != '\'') with
  | _ :: rest => if value.all isPrintable then some (value, rest) else none
  | [] => none

def line? : Text → Option (Text × Text)
  | '"' :: rest => basicWithin (rest.length + 1) rest
  | '\'' :: rest => literal? rest
  | _ => none

/-- Reads a string; a newline right after three opening quotes is no part of it. -/
def string? (text : Text) : Option (Text × Text) :=
  let body (rest : Text) := (afterNewline? rest).getD rest
  match text with
  | '"' :: '"' :: '"' :: rest => multilineWithin '"' false (rest.length + 1) (body rest)
  | '\'' :: '\'' :: '\'' :: rest => multilineWithin '\'' true (rest.length + 1) (body rest)
  | _ => line? text

def key? (text : Text) : Option (Text × Text) :=
  let bare := text.takeWhile isKeyChar
  if bare.isEmpty then line? text else some (bare, text.dropWhile isKeyChar)

/-- Reads the rest of a line that may hold a comment. -/
def lineEnd? (text : Text) : Option Text :=
  let rest := text.dropWhile isSpace
  let rest := if rest.head? = some '#' then rest.dropWhile isPrintable else rest
  if rest.isEmpty then some [] else afterNewline? rest

def entriesWithin : Nat → Text → Option (List (Text × Text))
  | 0, text => if text.isEmpty then some [] else none
  | fuel + 1, text =>
    if text.isEmpty then some []
    else match lineEnd? text with
      | some rest => entriesWithin fuel rest
      | none => do
        let (key, rest) ← key? (text.dropWhile isSpace)
        let value ← Text.dropPrefix? ['='] (rest.dropWhile isSpace)
        let (value, rest) ← string? (value.dropWhile isSpace)
        let rest ← lineEnd? rest
        return (key, value) :: (← entriesWithin fuel rest)

/-- The entries of a flat document in their order. A byte order mark in front is skipped, and each
line takes at least one character. -/
def entries? (document : Text) : Option (List (Text × Text)) :=
  let text := if document.head? = some '\ufeff' then document.tail else document
  entriesWithin text.length text

end GoStubs.Toml
