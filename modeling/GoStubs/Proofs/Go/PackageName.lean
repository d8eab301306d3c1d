import GoStubs.Go.Identifier
import GoStubs.Proofs.Text.Blank
import GoStubs.Proofs.Text.Categories

/-!
# Names that a package clause may have

By the grammar of Go an identifier is made of letters of the category L, underscores and decimal
digits of the category Nd.  The names that are accepted for packages may have all word characters:
no name of the grammar is refused, but names with letter numbers, marks or fractions are accepted
too.
-/

namespace GoStubs.Go

open Text (isAlphabetic isNumeric isWordChar)

variable {name : Text} {c : Char}

/-- A letter of the grammar. -/
def IsLetter (c : Char) : Prop := Text.letterRanges.has c ∨ c = '_'

/-- A digit of the grammar. -/
def IsDigit (c : Char) : Prop := Text.digitRanges.has c

instance (c : Char) : Decidable (IsLetter c) := inferInstanceAs (Decidable (_ ∨ _))

instance (c : Char) : Decidable (IsDigit c) := inferInstanceAs (Decidable (_ = _))

/-- An identifier of the grammar. -/
def SpellsIdentifier : Text → Prop
  | [] => False
  | first :: rest => IsLetter first ∧ ∀ c ∈ rest, IsLetter c ∨ IsDigit c

/-- The words that the grammar reserves, in its order. -/
def reservedWords : List Text :=
  ["break", "default", "func", "interface", "select", "case", "defer", "go", "map", "struct",
    "chan", "else", "goto", "package", "switch", "const", "fallthrough", "if", "range", "type",
    "continue", "for", "import", "return", "var"].map String.toList

/-- What the grammar asks of the name in a package clause. -/
structure MayNamePackage (name : Text) : Prop where
  identifier : SpellsIdentifier name
  not_blank : name ≠ ['_']
  not_reserved : name ∉ reservedWords

theorem mem_keywords_iff : name ∈ keywords ↔ name ∈ reservedWords := by
  have hperm : keywords.Perm reservedWords := by decide +kernel
  exact hperm.mem_iff

theorem isAlphabetic_of_isLetter (h : IsLetter c) : (isAlphabetic c || c == '_') = true := by
  rcases h with h | rfl
  · rw [Text.isAlphabetic_of_letter h, Bool.true_or]
  · exact Bool.or_true _

theorem isWordChar_of_isLetter_or (h : IsLetter c ∨ IsDigit c) : isWordChar c := by
  rw [isWordChar]
  rcases h with (h | rfl) | h
  · rw [Text.isAlphabetic_of_letter h, Bool.or_true, Bool.true_or]
  · rfl
  · rw [Text.isNumeric_of_digit h, Bool.or_true]

/-- A digit starts no word. -/
theorem isLetter_of_isAlphabetic (h : IsLetter c ∨ IsDigit c)
    (hc : (isAlphabetic c || c == '_') = true) : IsLetter c := by
  refine h.elim id fun hdigit => ?_
  rw [Text.not_isAlphabetic_of_digit hdigit, Bool.false_or, beq_iff_eq] at hc
  exact .inr hc

theorem isPackageName_iff :
    isPackageName name ↔ isWord name ∧ name ≠ ['_'] ∧ name ∉ reservedWords := by
  rw [isPackageName, Bool.and_eq_true, Bool.and_eq_true, bne_iff_ne, Bool.not_eq_true',
    ← Bool.not_eq_true, List.contains_iff_mem, mem_keywords_iff, and_assoc]

/-- The identifiers of the grammar are the words without other characters. -/
theorem spellsIdentifier_iff :
    SpellsIdentifier name ↔ isWord name ∧ ∀ c ∈ name, IsLetter c ∨ IsDigit c := by
  cases name with
  | nil => simp [SpellsIdentifier, not_isWord_nil]
  | cons c rest =>
      rw [SpellsIdentifier, isWord, Bool.and_eq_true, List.all_eq_true, List.forall_mem_cons]
      constructor
      · rintro ⟨hfirst, hrest⟩
        have hchars : ∀ d ∈ rest, isWordChar d :=
          fun d hd => isWordChar_of_isLetter_or (hrest d hd)
        exact ⟨⟨isAlphabetic_of_isLetter hfirst, hchars⟩, .inl hfirst, hrest⟩
      · rintro ⟨⟨hc, -⟩, hfirst, hrest⟩
        exact ⟨isLetter_of_isAlphabetic hfirst hc, hrest⟩

theorem mayNamePackage_iff_and :
    MayNamePackage name ↔ isPackageName name ∧ ∀ c ∈ name, IsLetter c ∨ IsDigit c := by
  rw [isPackageName_iff]
  constructor
  · rintro ⟨hidentifier, hblank, hreserved⟩
    obtain ⟨hword, hchars⟩ := spellsIdentifier_iff.1 hidentifier
    exact ⟨⟨hword, hblank, hreserved⟩, hchars⟩
  · rintro ⟨⟨hword, hblank, hreserved⟩, hchars⟩
    exact ⟨spellsIdentifier_iff.2 ⟨hword, hchars⟩, hblank, hreserved⟩

instance (name : Text) : Decidable (MayNamePackage name) :=
  decidable_of_iff _ mayNamePackage_iff_and.symm

/-- The first 128 word characters are letters and digits of the grammar. -/
theorem isLetter_or_of_isWordChar (hc : c.toNat < 128) (h : isWordChar c) :
    IsLetter c ∨ IsDigit c := by
  rw [isWordChar, Bool.or_eq_true, Bool.or_eq_true, beq_iff_eq] at h
  rcases h with (h | h) | h
  · exact .inl (.inr h)
  · exact .inl (.inl (Text.letter_of_isAlphabetic h hc))
  · exact .inr (Text.digit_of_isNumeric h hc)

/-- A name may stand in a package clause if and only if it is accepted and made of letters and
digits of the grammar.  Accepted names without characters beyond the first 128 always are. -/
theorem mayNamePackage_iff (name : Text) :
    (MayNamePackage name ↔ isPackageName name ∧ ∀ c ∈ name, IsLetter c ∨ IsDigit c) ∧
      ((∀ c ∈ name, c.toNat < 128) → (isPackageName name ↔ MayNamePackage name)) := by
  refine ⟨mayNamePackage_iff_and, fun hplain => ?_⟩
  rw [mayNamePackage_iff_and, iff_self_and]
  intro haccepted c hc
  have hword := isWordChar_of_mem_isWord (isWord_of_isPackageName haccepted) hc
  exact isLetter_or_of_isWordChar (hplain c hc) hword

/-- A word with digits behind a letter, with characters of the first 128 only. -/
theorem mayNamePackage_iff_sample :
    (∀ c ∈ "vke_cluster2".toList, c.toNat < 128) ∧ MayNamePackage "vke_cluster2".toList := by
  have hplain : ∀ c ∈ "vke_cluster2".toList, c.toNat < 128 := by decide
  exact ⟨hplain, ((mayNamePackage_iff _).2 hplain).1 (by decide +kernel)⟩

/-- Names that are accepted and that no package clause may have: one with a superscript, one that is
a letter number and one with a mark. -/
theorem accepted_beyond_grammar :
    (isPackageName "a²".toList ∧ ¬ MayNamePackage "a²".toList) ∧
      (isPackageName "Ⅷ".toList ∧ ¬ MayNamePackage "Ⅷ".toList) ∧
      isPackageName "a\u0903".toList ∧ ¬ MayNamePackage "a\u0903".toList := by
  decide +kernel

end GoStubs.Go
