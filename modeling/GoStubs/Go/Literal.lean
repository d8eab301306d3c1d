import GoStubs.Text.Basic

/-!
# Literals of Go source text

String, rune and raw literals start and end with the same quote. A backslash
escapes the next character, except in a raw literal. A reader keeps the
literal that it is inside of, or `none` outside all literals.
-/

namespace GoStubs.Go

/-- A literal that has been opened and not yet closed. -/
structure Literal where
  quote : Char
  escaped : Bool
  deriving DecidableEq, Repr

namespace Literal

def isQuote (c : Char) : Bool := c == '"' || c == '`' || c == '\''

/-- The literal after one more character, `none` if that character closes it. -/
def next (l : Literal) (c : Char) : Option Literal :=
  if l.escaped then some { l with escaped := false }
  else if c = '\\' ∧ l.quote ≠ '`' then some { l with escaped := true }
  else if c = l.quote then none
  else some l

/-- The literal that a character outside all literals opens. -/
def start? (c : Char) : Option Literal := if isQuote c then some ⟨c, false⟩ else none

/-- What a reader is inside of after one more character. -/
def step : Option Literal → Char → Option Literal
  | some l, c => l.next c
  | none, c => start? c

theorem start?_eq_none {c : Char} (h : isQuote c = false) : start? c = none := by
  simp [start?, h]

end Literal

end GoStubs.Go
