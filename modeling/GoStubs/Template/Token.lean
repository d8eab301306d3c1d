import GoStubs.Text.Blank
import GoStubs.Template.Basic
import GoStubs.Template.Numeral

/-!
# Template tokens

A source is text with tags in double braces. A tag is a name, which is raw if it
has braces of its own, the start of a block with what it repeats for, the end of a
block, or the word between two parts of a block. A few names are words of the
template language and not fields.
-/

namespace GoStubs.Template

open Text (isSpace)

/-- A source cut at its tags. -/
inductive Token
  | text (text : Text)
  | value (reference : Reference)
  | raw (reference : Reference)
  | open (reference : Reference)
  /-- The start of another part of a block, which may be under a command. -/
  | otherwise (command : Option Text)
  | close
  deriving DecidableEq, Repr

def isNewline (c : Char) : Bool := c == '\n' || c == '\r'

def isNameChar (c : Char) : Bool :=
  c.isAlphanum || ['_', '-', '$', ':'].contains c || 0x80 ≤ c.toNat

def isName (word : Text) : Bool := !word.isEmpty && word.all isNameChar

/-- Words that leave no text where a value stands. -/
def silentWords : List Text := ["log", "raw"].map String.toList

/-- Words that are refused where a value stands, since they need arguments. -/
def callWords : List Text :=
  ["each", "if", "unless", "with", "lookup", "eq", "ne", "gt", "gte", "lt", "lte", "not",
    "len"].map String.toList

def reference? (word : Text) : Option Reference :=
  if !isName word then none
  else if word = "this".toList then some .this
  else some (.field word)

/-- What a name stands for where a value is filled in. All of no conditions hold, and not any of
them. -/
def value? (name : Text) : Option Reference :=
  if name = "and".toList then some (.truth true)
  else if name = "or".toList then some (.truth false)
  else if silentWords.contains name then some .blank
  else if callWords.contains name then some .nothing
  else reference? name

/-- What the argument of a block stands for. Numbers, truth values and null stand for themselves,
and none of them has members. -/
def argument? (word : Text) : Option Reference :=
  if ["as", "else"].any (word = ·.toList) then none
  else if word = "true".toList then some (.truth true)
  else if word = "false".toList then some (.truth false)
  else if word = "null".toList then some .blank
  else match Numeral.ofWord? word with
    | some numeral => if numeral.isJson then some .blank else none
    | none => reference? word

def isTagBlank (c : Char) : Bool := isSpace c || isNewline c

/-- The words of a tag. The sign of a block belongs to the word after it. -/
def tagWords (tag : Text) : List Text :=
  match (Text.split isTagBlank tag).filter (! ·.isEmpty) with
  | [sign] :: word :: rest =>
    if sign == '#' || sign == '/' then (sign :: word) :: rest else [sign] :: word :: rest
  | words => words

/-- The start of another part, if a tag is one. The command may stand right after the word, so no
name of a value starts with it. -/
def otherwise? : List Text → Option Token
  | [word] => do
    let command ← Text.dropPrefix? "else".toList word
    if command.isEmpty then some (.otherwise none)
    else if isName command then some (.otherwise (some command))
    else none
  | [word, command] =>
    if word = "else".toList ∧ isName command then some (.otherwise (some command)) else none
  | _ => none

def tag? (tag : Text) : Option Token :=
  (otherwise? (tagWords tag)).or
    (match tagWords tag with
      | [block, word] => if block = "#each".toList then (argument? word).map .open else none
      | [word] =>
        if word = "#each".toList then some (.open .nothing)
        else if word = "/each".toList then some .close
        else (value? word).map .value
      | _ => none)

def bracedTag? (tag : Text) : Option Token :=
  match tagWords tag with
  | [word] => (value? word).map .raw
  | _ => none

/-- Reads a tag after its opening braces, and gives the text after its closing ones. -/
def tagStart? (text : Text) : Option (Token × Text) :=
  match text.dropWhile isTagBlank with
  | '\x7b' :: inner => do
    let (tag, after) ← Text.breakAt? ['\x7d'] inner
    let after ← Text.dropPrefix? ['\x7d', '\x7d'] ((after.drop 1).dropWhile isTagBlank)
    return (← bracedTag? tag, after)
  | _ => do
    let (tag, after) ← Text.breakAt? ['\x7d', '\x7d'] text
    return (← tag? tag, after.drop 2)

/-- Tokens with a text in front of them; two texts in a row are one. -/
def withText (text : Text) : List Token → List Token
  | .text more :: rest => .text (text ++ more) :: rest
  | tokens => if text.isEmpty then tokens else .text text :: tokens

/-- The braces that a text starts with, of which a backslash makes text: four or two. -/
def escapedBraces (text : Text) : Text :=
  text.take (if ['\x7b', '\x7b', '\x7b', '\x7b'].isPrefixOf text then 4 else 2)

/-- Cuts a text at the first double brace. A backslash in front of it makes it a text; of more
backslashes in front of it one is dropped. -/
def tokensWithin : Nat → Text → Option (List Token)
  | 0, text => if text.isEmpty then some [] else none
  | fuel + 1, text =>
    match Text.breakAt? ['\x7b', '\x7b'] text with
    | none => some (withText text [])
    | some (before, tagged) => do
      let slashes := (before.reverse.takeWhile (· == '\\')).length
      let before := if slashes = 0 then before else before.dropLast
      if slashes = 1 then
        let braces := escapedBraces tagged
        let rest ← tokensWithin fuel (tagged.drop braces.length)
        return withText (before ++ braces) rest
      else
        let (token, after) ← tagStart? (tagged.drop 2)
        let rest ← tokensWithin fuel after
        return withText before (token :: rest)

/-- The tokens of a source, unless it has a tag that cannot be read. -/
def tokens? (source : Text) : Option (List Token) := tokensWithin source.length source

end GoStubs.Template
