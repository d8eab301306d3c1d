import GoStubs.Text.Basic

/-!
# Ranges of code points

Character classes are lists of inclusive ranges of code points, and case
mappings are lists of shifts. A shift moves every code point that it reaches,
from its first to its last in equal steps, by one distance.
-/

namespace GoStubs.Text

abbrev Ranges := List (Nat × Nat)

def Ranges.has (ranges : Ranges) (c : Char) : Bool :=
  ranges.any fun (first, last) => first ≤ c.toNat && c.toNat ≤ last

theorem Ranges.has_iff {ranges : Ranges} {c : Char} :
    ranges.has c ↔ ∃ r ∈ ranges, r.1 ≤ c.toNat ∧ c.toNat ≤ r.2 := by
  simp [Ranges.has]

/-- Code points from `first` to `last` in steps of `step`, moved by `distance`. -/
structure Shift where
  first : Nat
  last : Nat
  step : Nat
  distance : Int

/-- Where the shift moves a code point, if it reaches it. -/
def Shift.move? (shift : Shift) (n : Nat) : Option Nat :=
  if shift.first ≤ n ∧ n ≤ shift.last ∧ (n - shift.first) % shift.step = 0 then
    some (n + shift.distance).toNat
  else none

end GoStubs.Text
