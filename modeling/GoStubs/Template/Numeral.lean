import GoStubs.Json.Double

/-!
# Numerals in templates

A word that is spelled as a number is no name. It has to be a number of JSON:
without needless zeros in front, with digits after its point, and not too large
for a double.
-/

namespace GoStubs.Template

/-- A word spelled as a number, without its sign. -/
structure Numeral where
  whole : Text
  fraction : Option Text
  exponent : Int
  deriving DecidableEq, Repr

namespace Numeral

/-- The digits that a text starts with, and the rest. -/
def digits (text : Text) : Text × Text := (text.takeWhile Char.isDigit, text.dropWhile Char.isDigit)

/-- Reads a whole text as an exponent. An empty text is none. -/
def exponent? (text : Text) : Option Int :=
  let (negative, ending) := match text with
    | 'E' :: '-' :: rest => (true, digits rest)
    | 'E' :: rest => (false, digits rest)
    | rest => (false, ([], rest))
  if text.isEmpty then some 0
  else if ending.1.isEmpty || !ending.2.isEmpty then none
  else if negative then some (-Text.decimal ending.1) else some (Text.decimal ending.1)

def ofWord? (word : Text) : Option Numeral :=
  let (whole, rest) := digits (if word.head? = some '-' then word.drop 1 else word)
  let (fraction, rest) := match rest with
    | '.' :: rest => (some (digits rest).1, (digits rest).2)
    | _ => (none, rest)
  if whole.isEmpty then none else (exponent? rest).map (⟨whole, fraction, ·⟩)

/-- The digits of a numeral with no zeros in front. -/
def significand (n : Numeral) : Text := (n.whole ++ n.fraction.getD []).dropWhile (· == '0')

def power (n : Numeral) : Int := n.exponent - (n.fraction.getD []).length

/-- Whether a double is near to the number. Only numbers of 309 places before the point have to be
computed for that. -/
def isFinite (n : Numeral) : Bool :=
  let places := n.significand.length + n.power
  if n.significand.isEmpty ∨ places ≤ 308 then true
  else if 309 < places then false
  else
    Text.decimal n.significand * Nat.pow 10 n.power.toNat <
      Double.overflow * Nat.pow 10 (-n.power).toNat

def isJson (n : Numeral) : Bool :=
  (n.whole.length ≤ 1 || n.whole.head? != some '0') && n.fraction != some [] && n.isFinite

end Numeral

end GoStubs.Template
