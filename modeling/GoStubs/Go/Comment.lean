import GoStubs.Go.Literal

/-!
# Comments of Go source text

Removing comments keeps what they separate: a line comment leaves its newline,
and a block comment leaves a newline if it had one and a space otherwise.
Literals are kept as they are, also unfinished ones.
-/

namespace GoStubs.Go.Comment

/-- Where a reader of source text stands. -/
inductive Place
  | code
  | literal (l : Literal)
  | line
  /-- A block comment: whether its last character was a star, and whether it had a newline. -/
  | block (star newline : Bool)
  deriving DecidableEq, Repr

def Place.ofLiteral : Option Literal → Place
  | some l => .literal l
  | none => .code

/-- What a block comment leaves. -/
def gap (newline : Bool) : Char := if newline then '\n' else ' '

def stripFrom : Place → Text → Text
  | .code, '/' :: '/' :: rest => stripFrom .line rest
  | .code, '/' :: '*' :: rest => stripFrom (.block false false) rest
  | .code, c :: rest => c :: stripFrom (.ofLiteral (Literal.start? c)) rest
  | .literal l, c :: rest => c :: stripFrom (.ofLiteral (l.next c)) rest
  | .line, c :: rest =>
    if c = '\n' then c :: stripFrom .code rest else stripFrom .line rest
  | .block star newline, c :: rest =>
    if star ∧ c = '/' then gap newline :: stripFrom .code rest
    else stripFrom (.block (c == '*') (newline || c == '\n')) rest
  | .block _ newline, [] => [gap newline]
  | _, [] => []

def strip (text : Text) : Text := stripFrom .code text

@[simp] theorem strip_nil : strip [] = [] := rfl

theorem stripFrom_literal_cons (l : Literal) (c : Char) (rest : Text) :
    stripFrom (.literal l) (c :: rest) = c :: stripFrom (.ofLiteral (l.next c)) rest := rfl

end GoStubs.Go.Comment
