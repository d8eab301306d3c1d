import GoStubs.Proofs.Text.Categories
import GoStubs.Text.Casing.Lower
import GoStubs.Text.Casing.Upper

/-!
# ASCII

The tables of Unicode begin with the letters and the digits of ASCII, and nothing else in them is
below 128.  So the characters below 128 are told apart and change their case as they do without any
table.
-/

namespace GoStubs.Text

variable {c : Char}

/-- What holds of each code point below 128 holds of the characters. -/
theorem forall_ascii {p : Char → Prop} (h : ∀ n < 128, p (Char.ofNat n)) (hc : c.toNat < 128) :
    p c := by
  have hn := h c.toNat hc
  rwa [Char.ofNat_toNat] at hn

/-! ### Classes -/

theorem Ranges.has_below_eq {ranges : Ranges} {bound : Nat} (hc : c.toNat < bound) :
    (ranges.below bound).has c = ranges.has c := by
  rw [Bool.eq_iff_iff]
  refine ⟨fun h => ?_, fun h => has_below h hc⟩
  obtain ⟨range, hrange, hin⟩ := has_iff.1 h
  exact has_iff.2 ⟨range, (List.mem_filter.1 hrange).1, hin⟩

theorem isAlphabetic_eq_isAlpha (h : c.toNat < 128) : isAlphabetic c = c.isAlpha := by
  have hbelow : alphabeticRanges.below 128 = [(65, 90), (97, 122)] := by decide +kernel
  have halpha : Ranges.has [(65, 90), (97, 122)] c = c.isAlpha :=
    forall_ascii (p := fun c => Ranges.has [(65, 90), (97, 122)] c = c.isAlpha)
      (by decide +kernel) h
  rw [← halpha, ← hbelow, Ranges.has_below_eq h, isAlphabetic]

theorem isNumeric_eq_isDigit (h : c.toNat < 128) : isNumeric c = c.isDigit := by
  have hbelow : numericRanges.below 128 = [(48, 57)] := by decide +kernel
  have hdigit : Ranges.has [(48, 57)] c = c.isDigit :=
    forall_ascii (p := fun c => Ranges.has [(48, 57)] c = c.isDigit) (by decide +kernel) h
  rw [← hdigit, ← hbelow, Ranges.has_below_eq h, isNumeric]

theorem isWordChar_eq_isAlphanum (h : c.toNat < 128) :
    isWordChar c = (c.isAlphanum || c == '_') := by
  rw [isWordChar, Char.isAlphanum, isAlphabetic_eq_isAlpha h, isNumeric_eq_isDigit h, Bool.or_assoc,
    Bool.or_comm]

/-! ### Cases -/

/-- Where a shift moves a character, which stays itself if the shift does not reach it. -/
def Shift.moved (shift : Shift) (c : Char) : Char := ((shift.move? c.toNat).map Char.ofNat).getD c

/-- Shifts that start behind ASCII do not reach into it. -/
theorem findSome?_move?_cons {shift : Shift} {shifts : List Shift} {n : Nat}
    (h : ∀ other ∈ shifts, 128 ≤ other.first) (hn : n < 128) :
    (shift :: shifts).findSome? (·.move? n) = shift.move? n := by
  have hnone : shifts.findSome? (·.move? n) = none := by
    rw [List.findSome?_eq_none_iff]
    intro other hm
    have hfirst : 128 ≤ other.first := h other hm
    rw [Shift.move?, if_neg (by omega)]
  rw [List.findSome?_cons, hnone]
  cases shift.move? n <;> rfl

theorem lookup_upperExpansions_eq_none {n : Nat} (hn : n < 128) :
    upperExpansions.lookup n = none := by
  have hkeys : ∀ expansion ∈ upperExpansions, 128 ≤ expansion.1 := by decide +kernel
  rw [List.lookup_eq_none_iff]
  intro expansion hm
  have hkey : 128 ≤ expansion.1 := hkeys expansion hm
  rw [bne_iff_ne]
  omega

theorem upper_eq_toUpper (h : c.toNat < 128) : upper c = [c.toUpper] := by
  have hshifts : upperShifts = ⟨0x61, 0x7A, 1, -32⟩ :: upperShifts.tail := rfl
  have hmoved : Shift.moved ⟨0x61, 0x7A, 1, -32⟩ c = c.toUpper :=
    forall_ascii (p := fun c => Shift.moved ⟨0x61, 0x7A, 1, -32⟩ c = c.toUpper)
      (by decide +kernel) h
  rw [upper, lookup_upperExpansions_eq_none h, hshifts,
    findSome?_move?_cons (by decide +kernel) h, ← hmoved]
  rfl

theorem lowerChar_eq_toLower (h : c.toNat < 128) : lowerChar c = [c.toLower] := by
  have hshifts : lowerShifts = ⟨0x41, 0x5A, 1, 32⟩ :: lowerShifts.tail := rfl
  have hmoved : Shift.moved ⟨0x41, 0x5A, 1, 32⟩ c = c.toLower :=
    forall_ascii (p := fun c => Shift.moved ⟨0x41, 0x5A, 1, 32⟩ c = c.toLower)
      (by decide +kernel) h
  have hdotted : c ≠ '\u0130' := by
    rintro rfl
    exact absurd h (by decide)
  rw [lowerChar, if_neg hdotted, hshifts, findSome?_move?_cons (by decide +kernel) h, ← hmoved]
  rfl

end GoStubs.Text
