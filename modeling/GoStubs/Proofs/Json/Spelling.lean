import GoStubs.Output

/-!
# Spellings of JSON values

JSON has many texts for a value: gaps may stand around its parts, and characters
of a string may be escaped.  What is printed for a value is one of them.
-/

namespace GoStubs.Json

variable {value : Json} {items : List Json} {fields : List (Text × Json)} {text spelling : Text}
  {entries : List Text} {c : Char}

def IsSpacing (text : Text) : Prop := ∀ c ∈ text, c ∈ [' ', '\n', '\r', '\t']

/-- The letters behind a backslash, and the characters that they stand for. -/
def escapes : List (Char × Char) :=
  [('"', '"'), ('\\', '\\'), ('/', '/'), ('b', '\x08'), ('f', '\x0c'), ('n', '\n'), ('r', '\r'),
    ('t', '\t')]

def hexDigits : Text := "0123456789abcdef".toList

def hexValue (digits : Text) : Nat :=
  digits.foldl (fun n digit => 16 * n + hexDigits.idxOf digit.toLower) 0

inductive SpellsChar (c : Char) : Text → Prop
  | itself (hquote : c ≠ '"') (hbackslash : c ≠ '\\') (hcontrol : 0x20 ≤ c.toNat) :
      SpellsChar c [c]
  | letter {letter : Char} (h : (letter, c) ∈ escapes) : SpellsChar c ['\\', letter]
  | digits {digits : Text} (hlength : digits.length = 4)
      (hdigits : ∀ digit ∈ digits, digit.toLower ∈ hexDigits) (h : hexValue digits = c.toNat) :
      SpellsChar c ('\\' :: 'u' :: digits)

inductive SpellsChars : Text → Text → Prop
  | nil : SpellsChars [] []
  | cons {c : Char} {spelling text rest : Text} (first : SpellsChar c spelling)
      (more : SpellsChars text rest) : SpellsChars (c :: text) (spelling ++ rest)

def SpellsText (text spelling : Text) : Prop :=
  ∃ inner, SpellsChars text inner ∧ spelling = '"' :: inner ++ ['"']

mutual

/-- Whether a text is JSON for a value. -/
inductive Spells : Json → Text → Prop
  | null : Spells .null "null".toList
  | bool (value : Bool) : Spells (.bool value) (boolText value)
  | number (number : Number) : Spells (.number number) number.text
  | string {text spelling : Text} (h : SpellsText text spelling) : Spells (.string text) spelling
  | array {items : List Json} {entries : List Text} {gap : Text} (h : SpellsItems items entries)
      (hgap : IsSpacing gap) :
      Spells (.array items) ('[' :: [','].intercalate entries ++ gap ++ [']'])
  | object {fields : List (Text × Json)} {entries : List Text} {gap : Text}
      (h : SpellsFields fields entries) (hgap : IsSpacing gap) :
      Spells (.object fields) ('\x7b' :: [','].intercalate entries ++ gap ++ ['\x7d'])

inductive SpellsItems : List Json → List Text → Prop
  | nil : SpellsItems [] []
  | cons {item : Json} {items : List Json} {before spelling after : Text} {entries : List Text}
      (hbefore : IsSpacing before) (h : Spells item spelling) (hafter : IsSpacing after)
      (more : SpellsItems items entries) :
      SpellsItems (item :: items) ((before ++ spelling ++ after) :: entries)

inductive SpellsFields : List (Text × Json) → List Text → Prop
  | nil : SpellsFields [] []
  | cons {key : Text} {value : Json} {fields : List (Text × Json)}
      {before name between gap spelling after : Text} {entries : List Text}
      (hbefore : IsSpacing before) (hkey : SpellsText key name) (hbetween : IsSpacing between)
      (hgap : IsSpacing gap) (h : Spells value spelling) (hafter : IsSpacing after)
      (more : SpellsFields fields entries) :
      SpellsFields ((key, value) :: fields)
        ((before ++ name ++ between ++ ':' :: gap ++ spelling ++ after) :: entries)

end

/-! ### Printed values -/

theorem fourHex_of_lt : ∀ n < 0x20, (fourHex n).length = 4 ∧
    (∀ digit ∈ fourHex n, digit.toLower ∈ hexDigits) ∧ hexValue (fourHex n) = n := by decide +kernel

theorem spellsChar_escapeChar (c : Char) : SpellsChar c (escapeChar c) := by
  by_cases hletter : c ∈ ['"', '\\', '\n', '\r', '\t', '\x08', '\x0c']
  · simp only [List.mem_cons, List.not_mem_nil, or_false] at hletter
    rcases hletter with rfl | rfl | rfl | rfl | rfl | rfl | rfl <;> exact .letter (by decide)
  · simp only [List.mem_cons, List.not_mem_nil, or_false, not_or] at hletter
    obtain ⟨hquote, hbackslash, hn, hr, ht, hb, hf⟩ := hletter
    rw [escapeChar, if_neg hquote, if_neg hbackslash, if_neg hn, if_neg hr, if_neg ht, if_neg hb,
      if_neg hf]
    split
    case isTrue hcontrol =>
      obtain ⟨hlength, hdigits, hvalue⟩ := fourHex_of_lt _ hcontrol
      exact .digits hlength hdigits hvalue
    case isFalse hcontrol => exact .itself hquote hbackslash (Nat.le_of_not_lt hcontrol)

theorem spellsText_quote (text : Text) : SpellsText text (quote text) := by
  refine ⟨text.flatMap escapeChar, ?_, rfl⟩
  induction text with
  | nil => exact .nil
  | cons c text ih => exact .cons (spellsChar_escapeChar c) ih

theorem isSpacing_margin (depth : Nat) : IsSpacing ('\n' :: margin depth) := by
  refine List.forall_mem_cons.2 ⟨by decide, fun c hc => ?_⟩
  rw [List.eq_of_mem_replicate hc]
  decide

theorem isSpacing_nil : IsSpacing [] := List.forall_mem_nil _

/-- A block has its entries on lines of their own. -/
theorem exists_block_eq (depth : Nat) (opening closing : Char) (entries : List Text) :
    ∃ gap, IsSpacing gap ∧ block depth opening closing entries =
      opening :: [','].intercalate (entries.map ('\n' :: margin (depth + 1) ++ ·)) ++ gap ++
        [closing] := by
  cases entries with
  | nil => exact ⟨[], isSpacing_nil, rfl⟩
  | cons entry entries =>
      refine ⟨'\n' :: margin depth, isSpacing_margin depth, ?_⟩
      rw [block, if_neg (by simp)]

mutual

theorem spells_print (value : Json) (depth : Nat) : Spells value (value.print depth) := by
  match value with
  | .null => exact .null
  | .bool value => exact .bool value
  | .number n => exact .number n
  | .string text => exact .string (spellsText_quote text)
  | .array items =>
      obtain ⟨gap, hgap, hblock⟩ := exists_block_eq depth '[' ']' (printItems (depth + 1) items)
      rw [print, hblock]
      exact .array (spellsItems_print items (depth + 1)) hgap
  | .object fields =>
      obtain ⟨gap, hgap, hblock⟩ :=
        exists_block_eq depth '\x7b' '\x7d' (printFields (depth + 1) fields)
      rw [print, hblock]
      exact .object (spellsFields_print fields (depth + 1)) hgap

theorem spellsItems_print (items : List Json) (depth : Nat) :
    SpellsItems items ((printItems depth items).map ('\n' :: margin depth ++ ·)) := by
  match items with
  | [] => exact .nil
  | item :: rest =>
      have hmore := spellsItems_print rest depth
      have hitem := SpellsItems.cons (isSpacing_margin depth) (spells_print item depth)
        isSpacing_nil hmore
      rwa [List.append_nil] at hitem

theorem spellsFields_print (fields : List (Text × Json)) (depth : Nat) :
    SpellsFields fields ((printFields depth fields).map ('\n' :: margin depth ++ ·)) := by
  match fields with
  | [] => exact .nil
  | (key, value) :: rest =>
      have hmore := spellsFields_print rest depth
      have hspace : IsSpacing [' '] := List.forall_mem_singleton.2 (by decide)
      have hfield := SpellsFields.cons (isSpacing_margin depth) (spellsText_quote key)
        isSpacing_nil hspace (spells_print value depth) isSpacing_nil hmore
      simpa [printFields] using hfield

end

end GoStubs.Json
