import GoStubs.Json.Number

/-!
# JSON values

The fields of an object are kept in a list, since reports print theirs in a
declared order; the formats that sort fields use `Json.sorted`.
-/

namespace GoStubs

inductive Json
  | null
  | bool (value : Bool)
  | number (value : Json.Number)
  | string (value : Text)
  | array (items : List Json)
  | object (fields : List (Text × Json))
  deriving Inhabited

namespace Json

def sortFields (fields : List (Text × Json)) : List (Text × Json) :=
  fields.mergeSort fun a b => (compare a.1 b.1).isLE

mutual

/-- The value with the fields of all its objects ordered by key. -/
def sorted : Json → Json
  | .array items => .array (sortedItems items)
  | .object fields => .object (sortFields (sortedFields fields))
  | leaf => leaf

def sortedItems : List Json → List Json
  | [] => []
  | item :: rest => item.sorted :: sortedItems rest

def sortedFields : List (Text × Json) → List (Text × Json)
  | [] => []
  | (key, value) :: rest => (key, value.sorted) :: sortedFields rest

end

def boolText (value : Bool) : Text := if value then "true".toList else "false".toList

end Json

end GoStubs
