import Mathlib.Data.List.Perm.Basic
import GoStubs.Output
import GoStubs.Proofs.Text.Blank

/-!
# The texts of a value

A value has texts from outside in its strings and its keys.  Sorting the fields of objects keeps
them.  What is written for a number is made up of a few plain characters.
-/

namespace GoStubs.Json

open Text (isBlank)

mutual

/-- The strings and the keys of a value. -/
def texts : Json → List Text
  | .string value => [value]
  | .array items => itemTexts items
  | .object fields => fieldTexts fields
  | _ => []

def itemTexts : List Json → List Text
  | [] => []
  | item :: rest => item.texts ++ itemTexts rest

def fieldTexts : List (Text × Json) → List Text
  | [] => []
  | (key, value) :: rest => key :: value.texts ++ fieldTexts rest

end

/-- The keys of an object itself. -/
def keys : Json → List Text
  | .object fields => fields.map Prod.fst
  | _ => []

variable {text : Text} {c : Char}

theorem mem_fieldTexts {fields : List (Text × Json)} :
    text ∈ fieldTexts fields ↔ ∃ field ∈ fields, text = field.1 ∨ text ∈ field.2.texts := by
  induction fields with
  | nil => simp [fieldTexts]
  | cons field rest ih => simp [fieldTexts, ih, or_assoc]

theorem mem_itemTexts {items : List Json} :
    text ∈ itemTexts items ↔ ∃ item ∈ items, text ∈ item.texts := by
  induction items with
  | nil => simp [itemTexts]
  | cons item rest ih => simp [itemTexts, ih]

theorem mem_sortFields {fields : List (Text × Json)} {field : Text × Json} :
    field ∈ sortFields fields ↔ field ∈ fields := (List.mergeSort_perm ..).mem_iff

mutual

theorem mem_texts_sorted (value : Json) : text ∈ value.sorted.texts ↔ text ∈ value.texts := by
  match value with
  | .null | .bool _ | .number _ | .string _ => rfl
  | .array items =>
      rw [sorted, texts, texts]
      exact mem_itemTexts_sortedItems items
  | .object fields =>
      rw [sorted, texts, texts, mem_fieldTexts, ← mem_fieldTexts_sortedFields fields,
        mem_fieldTexts]
      simp only [mem_sortFields]

theorem mem_itemTexts_sortedItems (items : List Json) :
    text ∈ itemTexts (sortedItems items) ↔ text ∈ itemTexts items := by
  match items with
  | [] => rfl
  | item :: rest =>
      rw [sortedItems, itemTexts, itemTexts, List.mem_append, List.mem_append,
        mem_texts_sorted item, mem_itemTexts_sortedItems rest]

theorem mem_fieldTexts_sortedFields (fields : List (Text × Json)) :
    text ∈ fieldTexts (sortedFields fields) ↔ text ∈ fieldTexts fields := by
  match fields with
  | [] => rfl
  | (key, value) :: rest =>
      simp only [sortedFields, fieldTexts, List.cons_append, List.mem_cons, List.mem_append,
        mem_texts_sorted value, mem_fieldTexts_sortedFields rest]

end

theorem map_fst_sortedFields (fields : List (Text × Json)) :
    (sortedFields fields).map Prod.fst = fields.map Prod.fst := by
  induction fields with
  | nil => rfl
  | cons field rest ih => rw [sortedFields, List.map_cons, List.map_cons, ih]

theorem mem_keys_sorted {value : Json} : text ∈ value.sorted.keys ↔ text ∈ value.keys := by
  cases value with
  | object fields =>
      rw [sorted, keys, keys, ← map_fst_sortedFields fields]
      exact ((List.mergeSort_perm ..).map Prod.fst).mem_iff
  | _ => rfl

/-! ### Numbers -/

/-- The characters with which numbers are written. -/
def IsNumeral (c : Char) : Prop := c.isDigit ∨ c ∈ ['-', '+', '.', 'e']

instance (c : Char) : Decidable (IsNumeral c) := inferInstanceAs (Decidable (_ ∨ _))

theorem IsNumeral.not_isBlank (h : IsNumeral c) : isBlank c = false := by
  rcases h with h | h
  · rw [Bool.eq_false_iff]
    intro hb
    obtain ⟨range, hr, hlow, hhigh⟩ := Text.Ranges.has_iff.1 hb
    have hdigit : 48 ≤ c.toNat ∧ c.toNat ≤ 57 := Char.isDigit_iff_toNat.1 h
    simp only [Text.blankRanges, List.mem_cons, List.not_mem_nil, or_false] at hr
    rcases hr with rfl | rfl | rfl | rfl | rfl | rfl | rfl | rfl | rfl | rfl <;> omega
  · revert c
    decide

theorem isNumeral_toDigits {n : Nat} (h : c ∈ Nat.toDigits 10 n) : IsNumeral c :=
  .inl (Nat.isDigit_of_mem_toDigits (by decide) (by decide) h)

theorem isNumeral_zeros {count : Nat} (h : c ∈ List.replicate count '0') : IsNumeral c := by
  rw [List.eq_of_mem_replicate h]
  decide

theorem isNumeral_positional {digits : Text} (h : ∀ c ∈ digits, IsNumeral c) (power : Int) :
    ∀ c ∈ Double.positional digits power, IsNumeral c := by
  cases power with
  | ofNat power =>
      have hfull : ∀ c ∈ digits ++ List.replicate (power + 2 - digits.length) '0', IsNumeral c :=
        List.forall_mem_append.2 ⟨h, fun _ => isNumeral_zeros⟩
      rw [Double.positional]
      refine List.forall_mem_append.2 ⟨fun c hc => hfull c (List.mem_of_mem_take hc), ?_⟩
      exact List.forall_mem_cons.2 ⟨by decide, fun c hc => hfull c (List.mem_of_mem_drop hc)⟩
  | negSucc zeros =>
      rw [Double.positional]
      refine List.forall_mem_append.2 ⟨?_, h⟩
      exact List.forall_mem_cons.2 ⟨by decide, List.forall_mem_cons.2 ⟨by decide,
        fun _ => isNumeral_zeros⟩⟩

theorem isNumeral_scientific {digits : Text} (h : ∀ c ∈ digits, IsNumeral c) (power : Int) :
    ∀ c ∈ Double.scientific digits power, IsNumeral c := by
  have hfraction : ∀ c ∈ (if digits.length ≤ 1 then [] else '.' :: digits.drop 1), IsNumeral c := by
    split
    · exact List.forall_mem_nil _
    · exact List.forall_mem_cons.2 ⟨by decide, fun c hc => h c (List.mem_of_mem_drop hc)⟩
  have hsign : IsNumeral (if power < 0 then '-' else '+') := by split <;> decide
  rw [Double.scientific]
  refine List.forall_mem_append.2 ⟨List.forall_mem_append.2
    ⟨fun c hc => h c (List.mem_of_mem_take hc), hfraction⟩, ?_⟩
  exact List.forall_mem_cons.2 ⟨by decide, List.forall_mem_cons.2 ⟨hsign,
    fun _ => isNumeral_toDigits⟩⟩

theorem isNumeral_unsignedText (d : Double) : ∀ c ∈ d.unsignedText, IsNumeral c := by
  have hdigits : ∀ c ∈ d.decimal.1, IsNumeral c := fun c hc =>
    isNumeral_toDigits ((Text.dropEndWhile_prefix _ _).subset hc)
  rw [Double.unsignedText]
  split
  · decide
  · dsimp only
    split
    · exact isNumeral_positional hdigits _
    · exact isNumeral_scientific hdigits _

theorem isNumeral_text (number : Number) : ∀ c ∈ number.text, IsNumeral c := by
  cases number with
  | integer value =>
      rw [Number.text]
      split
      · exact List.forall_mem_cons.2 ⟨by decide, fun _ => isNumeral_toDigits⟩
      · exact fun _ => isNumeral_toDigits
  | double d =>
      rw [Number.text, Double.text]
      split
      · exact List.forall_mem_cons.2 ⟨by decide, isNumeral_unsignedText d⟩
      · exact isNumeral_unsignedText d

/-! ### Words -/

/-- Whether a text can be told from a gap and from an escape sequence by each of its characters. -/
def IsVisible (text : Text) : Prop := ∀ c ∈ text, isBlank c = false ∧ c ≠ '\x1b'

instance (text : Text) : Decidable (IsVisible text) :=
  inferInstanceAs (Decidable (∀ c ∈ text, isBlank c = false ∧ c ≠ '\x1b'))

theorem IsVisible.newline_not_mem (h : IsVisible text) : '\n' ∉ text :=
  fun hm => absurd (h _ hm).1 (by decide)

theorem isVisible_boolText (value : Bool) : IsVisible (boolText value) := by
  cases value <;> decide

theorem isVisible_number (number : Number) : IsVisible number.text := by
  intro c hc
  refine ⟨(isNumeral_text number c hc).not_isBlank, ?_⟩
  rintro rfl
  exact absurd (isNumeral_text number _ hc) (by decide)

end GoStubs.Json
