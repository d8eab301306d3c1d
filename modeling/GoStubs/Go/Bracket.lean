import GoStubs.Text.Blank
import GoStubs.Go.Literal

/-!
# Brackets of Go source text

Two ways to respect nesting: finding the delimiter that closes an open one,
outside literals, and cutting a text at separators that stand at a given depth
of round, square and curly brackets.

The depth is counted without a bound. A counter of 32 bits agrees with it on any
text of fewer than 2³¹ characters, as none of them turns it by more than one.
-/

namespace GoStubs.Go.Bracket

/-- Splits a text at the delimiter that closes the outermost of `depth + 1` open ones; literals
are passed over. -/
def closingFrom? (opening closing : Char) : Nat → Option Literal → Text → Option (Text × Text)
  | _, _, [] => none
  | depth, some l, c :: rest => keep c (closingFrom? opening closing depth (l.next c) rest)
  | depth, none, c :: rest =>
    if Literal.isQuote c then
      keep c (closingFrom? opening closing depth (Literal.start? c) rest)
    else if c = opening then keep c (closingFrom? opening closing (depth + 1) none rest)
    else if c = closing then
      match depth with
      | 0 => some ([], rest)
      | depth + 1 => keep c (closingFrom? opening closing depth none rest)
    else keep c (closingFrom? opening closing depth none rest)
where
  keep (c : Char) : Option (Text × Text) → Option (Text × Text) :=
    Option.map fun (inner, after) => (c :: inner, after)

/-- What stands before and after the delimiter that closes an already open one. -/
def closing? (opening closing : Char) (text : Text) : Option (Text × Text) :=
  closingFrom? opening closing 0 none text

/-- The byte offset of the delimiter that closes an already open one. -/
def closingOffset? (opening closing : Char) (text : Text) : Option Nat :=
  (closing? opening closing text).map fun (inner, _) => Text.utf8Size inner

/-- How a character changes the depth, which may be negative. -/
def turn (c : Char) : Int :=
  if c = '(' ∨ c = '[' ∨ c = '{' then 1
  else if c = ')' ∨ c = ']' ∨ c = '}' then -1
  else 0

/-- The pieces of a text between the characters at which `cut` holds; it sees the depth before
each of them. -/
def splitFrom (cut : Int → Char → Bool) : Int → Text → List Text
  | _, [] => [[]]
  | depth, c :: rest =>
    if cut depth c then [] :: splitFrom cut depth rest
    else (splitFrom cut (depth + turn c) rest).modifyHead (c :: ·)

/-- The entries of a list: what stands between its commas outside brackets. -/
def entries (list : Text) : List Text :=
  ((splitFrom (fun depth c => depth == 0 && c == ',') 0 list).map Text.trim).filter (! ·.isEmpty)

/-- The declarations of a block, each on one line: they end at a newline or a semicolon that no
bracket holds open. -/
def declarations (body : Text) : List Text :=
  ((splitFrom (fun depth c => depth ≤ 0 && (c == '\n' || c == ';')) 0 body).map
    Text.collapse).filter (! ·.isEmpty)

theorem splitFrom_ne_nil (cut : Int → Char → Bool) (depth : Int) (text : Text) :
    splitFrom cut depth text ≠ [] := by
  induction text generalizing depth with
  | nil => simp [splitFrom]
  | cons c rest ih =>
    by_cases h : cut depth c
    · simp [splitFrom, h]
    · cases hs : splitFrom cut (depth + turn c) rest with
      | nil => exact absurd hs (ih _)
      | cons piece pieces => simp [splitFrom, h, hs]

end GoStubs.Go.Bracket
