import GoStubs.Disk.Basic

/-!
# The order of names by their bytes

The bytes of a character are its digits in base 64, and the first of them tells
also how many there are.  So texts are in the same order by their characters and
by their bytes, and so are locations, name by name.
-/

namespace GoStubs

namespace Text

open String (utf8EncodeChar)

theorem utf8EncodeChar_append_lt {c d : Char} (h : c < d) (x y : Bytes) :
    utf8EncodeChar c ++ x < utf8EncodeChar d ++ y := by
  have hlt : c.val.toNat < d.val.toNat := h
  have hlast : d.val.toNat < 0x110000 := by
    have hvalid := d.valid
    simp only [UInt32.isValidChar, Nat.isValidChar] at hvalid
    omega
  unfold utf8EncodeChar
  generalize c.val.toNat = m at hlt
  generalize d.val.toNat = n at hlt hlast
  -- Three and four digits are compared one after the other.
  have hthree : m / 4096 < n / 4096 ∨ m / 4096 = n / 4096 ∧
      (m / 64 % 64 < n / 64 % 64 ∨ m / 64 % 64 = n / 64 % 64 ∧ m % 64 < n % 64) := by omega
  have hfour : m / 262144 < n / 262144 ∨ m / 262144 = n / 262144 ∧
      (m / 4096 % 64 < n / 4096 % 64 ∨ m / 4096 % 64 = n / 4096 % 64 ∧
        (m / 64 % 64 < n / 64 % 64 ∨ m / 64 % 64 = n / 64 % 64 ∧ m % 64 < n % 64)) := by omega
  have hdigit (k : Nat) : (k % 64 + 128) % 2 ^ 8 = k % 64 + 128 := by omega
  have hfirst {k : Nat} (hk : k < 0x110000) :
      (k / 262144 % 8 + 240) % 2 ^ 8 = k / 262144 + 240 := by omega
  have hm := hfirst (Nat.lt_trans hlt hlast)
  have hn := hfirst hlast
  dsimp only
  repeat' split
  all_goals
    simp only [List.cons_append, List.cons_lt_cons_iff, UInt8.lt_iff_toNat_lt, ← UInt8.toNat_inj,
      UInt8.toNat_ofNat', List.nil_append, hdigit, hm, hn]
    omega

theorem encode_lt_of_compare {a b : Text} (h : compare a b = .lt) : encode a < encode b := by
  induction a generalizing b with
  | nil =>
      cases b with
      | nil => cases h
      | cons d b =>
          have hne : utf8EncodeChar d ≠ [] := String.utf8EncodeChar_ne_nil
          obtain ⟨byte, rest, hd⟩ := List.exists_cons_of_ne_nil hne
          rw [encode, encode, List.flatMap_cons, hd]
          exact List.nil_lt_cons byte _
  | cons c a ih =>
      cases b with
      | nil => cases h
      | cons d b =>
          rw [List.compare_cons_cons, Ordering.then_eq_lt] at h
          rcases h with hlt | ⟨heq, hrest⟩
          · exact utf8EncodeChar_append_lt (compareOfLessAndEq_eq_lt.1 hlt) _ _
          · cases Std.LawfulEqCmp.eq_of_compare heq
            exact List.append_left_lt (ih hrest)

end Text

/-- The names of a location as bytes. -/
def Location.bytes (location : Location) : List Text.Bytes := location.map Text.encode

theorem Location.bytes_lt_of_compare {a b : Location} (h : compare a b = .lt) :
    bytes a < bytes b := by
  induction a generalizing b with
  | nil =>
      cases b with
      | nil => cases h
      | cons name b => exact List.nil_lt_cons _ _
  | cons first a ih =>
      cases b with
      | nil => cases h
      | cons last b =>
          rw [List.compare_cons_cons, Ordering.then_eq_lt] at h
          rcases h with hlt | ⟨heq, hrest⟩
          · exact List.cons_lt_cons_iff.2 (.inl (Text.encode_lt_of_compare hlt))
          · cases Std.LawfulEqCmp.eq_of_compare heq
            exact List.cons_lt_cons_iff.2 (.inr ⟨rfl, ih hrest⟩)

end GoStubs
