import GoStubs.Json.Value

/-!
# The leaves of a JSON value

A leaf is a scalar, an empty array or an empty object. Its path joins field
names with dots and gives array positions in brackets. The plain text of a
value is one entry a leaf.
-/

namespace GoStubs.Json

def fieldPath (path key : Text) : Text := if path.isEmpty then key else path ++ '.' :: key

def itemPath (path : Text) (index : Nat) : Text :=
  path ++ '[' :: Nat.toDigits 10 index ++ [']']

/-- The text of a leaf; inner values have none. -/
def leafText : Json → Text
  | .null => "null".toList
  | .bool value => boolText value
  | .number value => value.text
  | .string value => value
  | .array _ => "[]".toList
  | .object _ => "\x7b\x7d".toList

mutual

/-- The paths and leaves of a value, depth first. -/
def leaves (path : Text) : Json → List (Text × Json)
  | .array (item :: rest) => itemLeaves path 0 (item :: rest)
  | .object (field :: rest) => fieldLeaves path (field :: rest)
  | leaf => [(path, leaf)]

def itemLeaves (path : Text) (index : Nat) : List Json → List (Text × Json)
  | [] => []
  | item :: rest => item.leaves (itemPath path index) ++ itemLeaves path (index + 1) rest

def fieldLeaves (path : Text) : List (Text × Json) → List (Text × Json)
  | [] => []
  | (key, value) :: rest => value.leaves (fieldPath path key) ++ fieldLeaves path rest

end

/-- The text of a leaf after its path; the path of the whole value is not written. -/
def entryText (path : Text) (leaf : Json) : Text :=
  if path.isEmpty then leaf.leafText else path ++ ':' :: ' ' :: leaf.leafText

def plain (value : Json) : Text :=
  ['\n'].intercalate ((value.leaves []).map fun (path, leaf) => entryText path leaf)

end GoStubs.Json
