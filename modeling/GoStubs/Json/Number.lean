import GoStubs.Json.Double

/-!
# Numbers in JSON

A number is an integer or a binary floating-point number, and its text tells
which. Numbers from a hundred-thousandth up to sixteen places before the point
are written out, others with an exponent.
-/

namespace GoStubs

namespace Double

/-- Digits around a decimal point; the first one counts ten to the `power`. -/
def positional (digits : Text) : Int → Text
  | .ofNat power =>
    let digits := digits ++ List.replicate (power + 2 - digits.length) '0'
    digits.take (power + 1) ++ '.' :: digits.drop (power + 1)
  | .negSucc zeros => '0' :: '.' :: List.replicate zeros '0' ++ digits

/-- Digits with the point after the first one, and an exponent with its sign. -/
def scientific (digits : Text) (power : Int) : Text :=
  let fraction := if digits.length ≤ 1 then [] else '.' :: digits.drop 1
  digits.take 1 ++ fraction ++ 'e' :: (if power < 0 then '-' else '+') ::
    Nat.toDigits 10 power.natAbs

def unsignedText (d : Double) : Text :=
  if d.significand = 0 then "0.0".toList
  else
    let (digits, power) := d.decimal
    if -5 ≤ power ∧ power < 16 then positional digits power else scientific digits power

def text (d : Double) : Text := if d.negative then '-' :: d.unsignedText else d.unsignedText

end Double

namespace Json

inductive Number
  | integer (value : Int)
  | double (value : Double)
  deriving DecidableEq, Repr

namespace Number

def ofNat (n : Nat) : Number := .integer n

def text : Number → Text
  | .integer value =>
    let digits := Nat.toDigits 10 value.natAbs
    if value < 0 then '-' :: digits else digits
  | .double value => value.text

end Number

end Json

end GoStubs
