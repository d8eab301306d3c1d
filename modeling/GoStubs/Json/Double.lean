import GoStubs.Text.Basic

/-!
# Shortest decimals of binary numbers

A binary floating-point number is written with the fewest decimal digits that
no other one is nearer to. The reals that are nearest to it make up a span; of
the decimals in the span with the fewest digits, the nearest one is taken.
-/

namespace GoStubs

/-- The number `significand * 2 ^ exponent`, with a sign that zero has too. A significand has at
most 53 bits, and fewer only at the lowest exponent. -/
structure Double where
  negative : Bool
  significand : Nat
  exponent : Int
  deriving DecidableEq, Repr

namespace Double

def leastExponent : Int := -1074

/-- The least significand of 53 bits. The spacing of numbers halves below it. -/
def leastFull : Nat := 0x10000000000000

/-- The least whole number that is too large for a double: halfway between the largest double and
the next power of two. -/
def overflow : Nat := (1 <<< 1024) - (1 <<< 970)

/-- The reals between `low` and `high`, around `value`, all in parts of one `unit`. The ends
belong to it if it is `closed`. -/
structure Span where
  low : Nat
  value : Nat
  high : Nat
  unit : Nat
  closed : Bool
  deriving DecidableEq, Repr

namespace Span

def has (span : Span) (n : Nat) : Bool :=
  let parts := n * span.unit
  if span.closed then span.low ≤ parts && parts ≤ span.high
  else span.low < parts && parts < span.high

/-- The span of the reals multiplied by a power of ten. -/
def shift (span : Span) : Int → Span
  | .ofNat places =>
    let power := Nat.pow 10 places
    { span with
      low := span.low * power, value := span.value * power, high := span.high * power }
  | .negSucc places => { span with unit := span.unit * Nat.pow 10 (places + 1) }

/-- The whole number of the span that is next to its value, the even one of two. -/
def whole? (span : Span) : Option Nat :=
  let below := span.value / span.unit
  let twice := 2 * (span.value % span.unit)
  let order :=
    if twice < span.unit ∨ twice = span.unit ∧ below % 2 = 0 then [below, below + 1]
    else [below + 1, below]
  order.find? span.has

def digitCount (n : Nat) : Nat := (Nat.toDigits 10 n).length

/-- The power of ten that the first digit of the value counts. -/
def magnitude (span : Span) : Int :=
  if span.unit ≤ span.value then digitCount (span.value / span.unit) - 1
  else -digitCount ((span.unit - 1) / span.value)

/-- A whole number and the power of ten that it counts: the decimal in the span with the fewest
digits, of which there are at most 17. -/
def shortest (span : Span) : Nat × Int :=
  ((List.range 17).findSome? fun (more : Nat) =>
    ((span.shift (more - span.magnitude)).whole?).map fun n => (n, span.magnitude - more)).getD
      (span.value / span.unit, 0)

end Span

/-- The reals to which a number is the nearest one, without its sign. Halfway reals belong to the
number with the even significand. -/
def span (d : Double) : Span :=
  let below := if d.significand = leastFull ∧ d.exponent ≠ leastExponent then 1 else 2
  let up (n : Nat) : Nat := n <<< d.exponent.toNat
  { low := up (4 * d.significand - below)
    value := up (4 * d.significand)
    high := up (4 * d.significand + 2)
    unit := 4 <<< (-d.exponent).toNat
    closed := d.significand % 2 = 0 }

/-- The digits of a number, the last one no zero, and the power of ten that the first one
counts. -/
def decimal (d : Double) : Text × Int :=
  let (n, power) := d.span.shortest
  let digits := Nat.toDigits 10 n
  (Text.dropEndWhile (· == '0') digits, power + digits.length - 1)

end Double

end GoStubs
