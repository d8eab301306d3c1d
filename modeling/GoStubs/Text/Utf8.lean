import GoStubs.Text.Basic

/-!
# UTF-8

Texts as bytes. Decoding is strict: it refuses stray and missing continuation
bytes, forms that are longer than needed, surrogates, and numbers beyond the
last code point.
-/

namespace GoStubs.Text

abbrev Bytes := List UInt8

def encode (text : Text) : Bytes := text.flatMap String.utf8EncodeChar

@[simp] theorem encode_nil : encode [] = [] := rfl

theorem encode_append (a b : Text) : encode (a ++ b) = encode a ++ encode b := by
  simp [encode]

/-- A character of several bytes of which `left` are still to come. -/
structure Pending where
  left : Nat
  value : Nat
  /-- The least code point that needs this many bytes. -/
  least : Nat

/-- The character that a byte above 127 begins. -/
def Pending.start? (b : UInt8) : Option Pending :=
  if 0xC0 ≤ b ∧ b < 0xE0 then some ⟨1, b.toNat - 0xC0, 0x80⟩
  else if 0xE0 ≤ b ∧ b < 0xF0 then some ⟨2, b.toNat - 0xE0, 0x800⟩
  else if 0xF0 ≤ b ∧ b < 0xF8 then some ⟨3, b.toNat - 0xF0, 0x10000⟩
  else none

def decodeFrom : Option Pending → Bytes → Option Text
  | none, [] => some []
  | some _, [] => none
  | none, b :: rest =>
    if b < 0x80 then (decodeFrom none rest).map (Char.ofNat b.toNat :: ·)
    else match Pending.start? b with
      | some pending => decodeFrom (some pending) rest
      | none => none
  | some pending, b :: rest =>
    if 0x80 ≤ b ∧ b < 0xC0 then
      let value := pending.value * 64 + (b.toNat - 0x80)
      if pending.left ≤ 1 then
        if pending.least ≤ value ∧ value.isValidChar then
          (decodeFrom none rest).map (Char.ofNat value :: ·)
        else none
      else decodeFrom (some ⟨pending.left - 1, value, pending.least⟩) rest
    else none

/-- The text that the bytes spell, if they are valid UTF-8. -/
def decode? (bytes : Bytes) : Option Text := decodeFrom none bytes

end GoStubs.Text
