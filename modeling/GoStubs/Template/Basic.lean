import GoStubs.Json.Value

/-!
# Templates

A template is made of texts, places for values, and blocks that repeat for each
member of a collection. What is filled in is never read as a template again;
whether it is escaped before, and what is done where nothing can be filled in,
is up to the rules that a template is filled by.
-/

namespace GoStubs

/-- What a place in a template refers to. -/
inductive Reference
  | this
  | field (name : Text)
  /-- Always null, which has no text and no members. -/
  | blank
  | truth (value : Bool)
  /-- Never a value. -/
  | nothing
  deriving DecidableEq, Repr

namespace Template

inductive Part
  | text (text : Text)
  | value (reference : Reference)
  /-- A value that no rules escape. -/
  | raw (reference : Reference)
  | each (reference : Reference) (body : List Part)
  | eachOr (reference : Reference) (body otherwise : List Part)

end Template

abbrev Template := List Template.Part

namespace Reference

/-- The position that a name of decimal digits stands for. Positions have 64 bits. -/
def position? (name : Text) : Option Nat :=
  if !name.isEmpty && name.all Char.isDigit && Text.decimal name < 0x10000000000000000 then
    some (Text.decimal name)
  else none

/-- What the reference means in a context, if anything. A name of digits counts the items of an
array. -/
def find? (context : Json) : Reference → Option Json
  | .this => some context
  | .field name =>
    match context with
    | .object fields => fields.lookup name
    | .array items => position? name >>= (items[·]?)
    | _ => none
  | .blank => some .null
  | .truth value => some (.bool value)
  | .nothing => none

/-- Whether the reference cannot be looked up at all. An array has positions and no fields; in
other contexts a field is just not there. -/
def isRefused (context : Json) : Reference → Bool
  | .field name =>
    match context with
    | .array _ => (position? name).isNone
    | _ => false
  | .nothing => true
  | _ => false

end Reference

namespace Template

mutual

def shown : Json → Text
  | .null => []
  | .bool value => Json.boolText value
  | .number value => value.text
  | .string value => value
  | .array items => '[' :: [',', ' '].intercalate (shownItems items) ++ [']']
  | .object _ => "[object]".toList

def shownItems : List Json → List Text
  | [] => []
  | item :: rest => shown item :: shownItems rest

end

/-- The members that a block repeats for; those of an object in the order of their keys. -/
def members? : Json → Option (List Json)
  | .array items => some items
  | .object fields => some ((Json.sortFields fields).map (·.2))
  | _ => none

/-- The rules that templates are filled by. -/
structure Rules where
  /-- Whether a value that is not there, or has no members to repeat for, is refused. Otherwise
  nothing stands for it. -/
  strict : Bool
  /-- What is made of the text of a value before it is filled in. -/
  escape : Text → Text

namespace Rules

/-- What stands where there is nothing to fill in. -/
def absent? (rules : Rules) : Option Text := if rules.strict then none else some []

/-- What stands for a value, given what becomes of its text. -/
def place? (rules : Rules) (change : Text → Text) (context : Json) (reference : Reference) :
    Option Text :=
  if reference.isRefused context then none
  else match reference.find? context with
    | some value => some (change (shown value))
    | none => rules.absent?

end Rules

mutual

/-- Fills one part; `none` if that is refused. A block that has a part for the case that there is
nothing to repeat for is filled by any rules, as long as what it is over can be looked up. -/
def Part.fill? (rules : Rules) (context : Json) : Part → Option Text
  | .text text => some text
  | .value reference => rules.place? rules.escape context reference
  | .raw reference => rules.place? id context reference
  | .each reference body =>
    if reference.isRefused context then none
    else match reference.find? context >>= members? with
      | some items => do
        let texts ← items.mapM fun item => fillParts? rules item body
        return texts.flatten
      | none => rules.absent?
  | .eachOr reference body otherwise =>
    if reference.isRefused context then none
    else match reference.find? context >>= members? with
      | some (item :: items) => do
        let texts ← (item :: items).mapM fun item => fillParts? rules item body
        return texts.flatten
      | _ => fillParts? rules context otherwise

def fillParts? (rules : Rules) (context : Json) : List Part → Option Text
  | [] => some []
  | part :: rest => do
    let text ← part.fill? rules context
    let texts ← fillParts? rules context rest
    return text ++ texts

end

def fill? (rules : Rules) (template : Template) (context : Json) : Option Text :=
  fillParts? rules context template

end Template

end GoStubs
