import GoStubs.Text.Blank
import GoStubs.Json.Printer

/-!
# Outlines of JSON values

The form for readers: keys and values on indented lines, items behind dashes,
texts without quotes. Colours are terminal escape sequences around keys and
scalars; where a painted text resets the colour itself, it is set again.
-/

namespace GoStubs.Json

open Text (trimStart)

inductive Style
  | key
  | truth
  | number
  | string
  | faint
  deriving DecidableEq, Repr

def Style.code : Style → Text
  | .key => "1;34".toList
  | .truth => "33".toList
  | .number => "36".toList
  | .string => "32".toList
  | .faint => "2".toList

def Style.start (style : Style) : Text := '\x1b' :: '[' :: style.code ++ ['m']

def reset : Text := "\x1b[0m".toList

/-- Sets a style again after each reset in a text. -/
def resume (start : Text) : Text → Text
  | '\x1b' :: '[' :: '0' :: 'm' :: rest => reset ++ start ++ resume start rest
  | c :: rest => c :: resume start rest
  | [] => []

def paint (colour : Bool) (style : Style) (text : Text) : Text :=
  if colour then style.start ++ resume style.start text ++ reset else text

mutual

/-- The outline of a value that stands `depth` levels deep. -/
def outline (colour : Bool) (depth : Nat) : Json → Text
  | .null => paint colour .faint "null".toList
  | .bool value => paint colour .truth (boolText value)
  | .number value => paint colour .number value.text
  | .string value =>
    if value.contains '\n' then '\n' :: value else paint colour .string value
  | .array items =>
    if items.isEmpty then paint colour .faint "(none)".toList
    else outlineItems colour depth items
  | .object fields =>
    if fields.isEmpty then "\x7b\x7d".toList
    else outlineFields colour depth (depth == 0) fields

def outlineItems (colour : Bool) (depth : Nat) : List Json → Text
  | [] => []
  | item :: rest =>
    '\n' :: margin (depth + 1) ++ '-' :: ' ' :: trimStart (item.outline colour (depth + 2)) ++
      outlineItems colour depth rest

/-- The lines of fields; `start` tells that the first one starts the whole outline. -/
def outlineFields (colour : Bool) (depth : Nat) (start : Bool) : List (Text × Json) → Text
  | [] => []
  | (key, value) :: rest =>
    let body := value.outline colour (depth + 1)
    (if start then [] else '\n' :: margin depth) ++ paint colour .key key ++ [':'] ++
      (if body.head? = some '\n' then body else ' ' :: body) ++
      outlineFields colour depth false rest

end

end GoStubs.Json
