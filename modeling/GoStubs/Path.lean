import GoStubs.Text.Basic

/-!
# Paths

A path keeps its text as it was written and joined; its components are read off
the text. Empty segments and dots inside a path are no components, a dot at
the front is one. Parents are cut from the text, so that they print as written.
-/

namespace GoStubs

structure Path where
  text : Text
  deriving DecidableEq, Repr

namespace Path

inductive Component
  | root
  | here
  | up
  | name (name : Text)
  deriving DecidableEq, Repr

/-- The texts between the slashes of a path. -/
def segments (path : Path) : List Text := Text.split (· == '/') path.text

/-- Whether a segment is empty or a dot. -/
def isIdle (segment : Text) : Bool := segment == [] || segment == ['.']

/-- The component of a segment that is not the first one. -/
def Component.ofSegment? (segment : Text) : Option Component :=
  if isIdle segment then none
  else if segment = ['.', '.'] then some .up
  else some (.name segment)

def isAbsolute (path : Path) : Bool := path.text.head? == some '/'

def components (path : Path) : List Component :=
  match path.segments with
  | [] => []
  | first :: rest =>
    let start :=
      if path.isAbsolute then [.root]
      else if first = ['.'] then [.here]
      else (Component.ofSegment? first).toList
    start ++ rest.filterMap Component.ofSegment?

def Component.name? : Component → Option Text
  | .name segment => some segment
  | _ => none

/-- The path that `text` names as seen from `path`. -/
def join (path : Path) (text : Text) : Path :=
  if text.head? = some '/' then ⟨text⟩
  else if path.text = [] ∨ path.text.getLast? = some '/' then ⟨path.text ++ text⟩
  else ⟨path.text ++ '/' :: text⟩

/-- The path without its last component, unless there is none or it is the root. -/
def parent? (path : Path) : Option Path :=
  let anchored := path.isAbsolute || path.segments.head? == some ['.']
  let (anchor, body) := path.segments.splitAt (if anchored then 1 else 0)
  match body.reverse.dropWhile isIdle with
  | [] => if anchored && !path.isAbsolute then some ⟨[]⟩ else none
  | _ :: above =>
    let kept := (above.dropWhile isIdle).reverse
    if path.isAbsolute && kept.isEmpty then some ⟨['/']⟩
    else some ⟨['/'].intercalate (anchor ++ kept)⟩

def ancestorsWithin : Nat → Path → List Path
  | 0, _ => []
  | fuel + 1, path =>
    path :: match path.parent? with
      | none => []
      | some parent => ancestorsWithin fuel parent

/-- The path, its parent, and so on. A parent is shorter than its path, so the length of the text
bounds their number. -/
def ancestors (path : Path) : List Path := ancestorsWithin (path.text.length + 1) path

/-- The components of `path` that follow those of `base`. -/
def below? (base path : Path) : Option (List Component) :=
  Text.dropPrefix? base.components path.components

/-- Neither absolute nor with a step upwards. -/
def staysInside (path : Path) : Bool :=
  path.components.all fun
    | .name _ | .here => true
    | .root | .up => false

end Path

end GoStubs
