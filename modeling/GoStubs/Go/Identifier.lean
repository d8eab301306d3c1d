import GoStubs.Text.Numeric

/-!
# Go identifiers

A word is a letter or an underscore followed by word characters. Two kinds of
names are words with some of them reserved: the names in a signature, where
keywords start a type, and the names of packages.
-/

namespace GoStubs.Go

open Text (isAlphabetic isWordChar)

/-- A letter or an underscore, followed by word characters. -/
def isWord : Text → Bool
  | [] => false
  | c :: rest => (isAlphabetic c || c == '_') && rest.all isWordChar

def typeKeywords : List Text :=
  ["chan", "func", "interface", "map", "struct"].map String.toList

/-- A word that can name a method, a parameter or a result. -/
def isIdentifier (text : Text) : Bool := isWord text && !typeKeywords.contains text

def keywords : List Text :=
  ["break", "case", "chan", "const", "continue", "default", "defer", "else", "fallthrough",
    "for", "func", "go", "goto", "if", "import", "interface", "map", "package", "range",
    "return", "select", "struct", "switch", "type", "var"].map String.toList

def isPackageName (name : Text) : Bool :=
  isWord name && name != ['_'] && !keywords.contains name

theorem isWord_of_isIdentifier {text : Text} (h : isIdentifier text) : isWord text := by
  simp only [isIdentifier, Bool.and_eq_true] at h
  exact h.1

theorem isWord_of_isPackageName {name : Text} (h : isPackageName name) : isWord name := by
  simp only [isPackageName, Bool.and_eq_true] at h
  exact h.1.1

theorem not_isWord_nil : isWord [] = false := rfl

theorem isWordChar_of_mem_isWord {text : Text} {c : Char} (h : isWord text) (hc : c ∈ text) :
    isWordChar c := by
  cases text with
  | nil => simp at hc
  | cons d rest =>
    simp only [isWord, Bool.and_eq_true, List.all_eq_true] at h
    rcases List.mem_cons.1 hc with rfl | hc
    · have hd := h.1
      simp only [Bool.or_eq_true] at hd
      rcases hd with hd | hd <;> simp [isWordChar, hd]
    · exact h.2 c hc

end GoStubs.Go
