import GoStubs.Text.Ranges

/-!
# White space

Blank characters are the ones of the Unicode property White_Space. The module
has trimming, the words of a text, and the text with its blank runs collapsed.
-/

namespace GoStubs.Text

def blankRanges : Ranges :=
  [(0x9, 0xD), (0x20, 0x20), (0x85, 0x85), (0xA0, 0xA0), (0x1680, 0x1680), (0x2000, 0x200A),
    (0x2028, 0x2029), (0x202F, 0x202F), (0x205F, 0x205F), (0x3000, 0x3000)]

def isSpace (c : Char) : Bool := c == ' ' || c == '\t'

def isBlank (c : Char) : Bool := blankRanges.has c

def trimStart (text : Text) : Text := text.dropWhile isBlank

def trimEnd (text : Text) : Text := dropEndWhile isBlank text

def trim (text : Text) : Text := trimEnd (trimStart text)

/-- The maximal runs of characters that are not blank. -/
def words (text : Text) : List Text := (split isBlank text).filter (! ·.isEmpty)

/-- The words of a text with one space between two neighbours. -/
def collapse (text : Text) : Text := [' '].intercalate (words text)

theorem ne_nil_of_mem_words {text word : Text} (h : word ∈ words text) : word ≠ [] := by
  simpa using (List.mem_filter.1 h).2

end GoStubs.Text
