import GoStubs.Template.Source
import GoStubs.Fault

/-!
# Shelves of templates

Templates are registered under names and filled by name. A name that is
registered again has the later template. The templates of a shelf are filled by
its rules: a new shelf leaves out what is not there and escapes values as texts
of a markup language, and both can be set.
-/

namespace GoStubs

/-- What stands for a character in a text of a markup language. -/
def Template.markup (c : Char) : Text :=
  if c = '<' then "&lt;".toList
  else if c = '>' then "&gt;".toList
  else if c = '"' then "&quot;".toList
  else if c = '&' then "&amp;".toList
  else if c = '\x27' then "&#x27;".toList
  else if c = '\x60' then "&#x60;".toList
  else if c = '=' then "&#x3D;".toList
  else [c]

structure Shelf where
  rules : Template.Rules
  templates : List (Text × Template)

namespace Shelf

def new : Shelf := ⟨⟨false, (·.flatMap Template.markup)⟩, []⟩

def setStrict (shelf : Shelf) (strict : Bool) : Shelf :=
  { shelf with rules.strict := strict }

def setEscape (shelf : Shelf) (escape : Text → Text) : Shelf :=
  { shelf with rules.escape := escape }

/-- Puts a template on the shelf in place of another one with the same name. -/
def put (shelf : Shelf) (name : Text) (template : Template) : Shelf :=
  { shelf with templates := (name, template) :: shelf.templates }

def register (shelf : Shelf) (name source : Text) : Except Fault Shelf :=
  match Template.ofSource? source with
  | some template => .ok (shelf.put name template)
  | none => .error (.template
      ("Failed to register template '".toList ++ name ++ "'".toList) none)

def fill (shelf : Shelf) (name : Text) (context : Json) : Except Fault Text :=
  match shelf.templates.lookup name >>= fun template => template.fill? shelf.rules context with
  | some text => .ok text
  | none => .error (.template "Template rendering failed".toList none)

theorem lookup_put (shelf : Shelf) (name : Text) (template : Template) :
    (shelf.put name template).templates.lookup name = some template := by
  simp [put]

theorem register_of_ofSource? {source : Text} {template : Template}
    (h : Template.ofSource? source = some template) (shelf : Shelf) (name : Text) :
    shelf.register name source = .ok (shelf.put name template) := by rw [register, h]

theorem register_both {first second : Text} {one other : Template} (shelf : Shelf)
    (name also : Text) (hfirst : Template.ofSource? first = some one)
    (hsecond : Template.ofSource? second = some other) :
    (shelf.register name first >>= (·.register also second)) =
      .ok ((shelf.put name one).put also other) := by
  rw [register_of_ofSource? hfirst]
  exact register_of_ofSource? hsecond _ also

end Shelf

end GoStubs
