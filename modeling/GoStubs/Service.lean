import GoStubs.Text.Numeric
import GoStubs.Text.Casing.Upper
import GoStubs.Text.Casing.Lower

/-!
# Services

The name of a service is the name of its package with every word capitalised.
It names the generated struct, and its lower case is a part of the name of the
generated file.
-/

namespace GoStubs

structure Service where
  name : Text
  deriving DecidableEq, Repr

namespace Service

/-- Capitalises words; `start` tells whether the next character starts one. -/
def capitalise (start : Bool) : Text → Text
  | [] => []
  | c :: rest =>
    (if start then Text.upper c else [c]) ++ capitalise (!Text.isWordChar c) rest

def ofPackage (package : Text) : Service := ⟨capitalise true package⟩

def fileStem (service : Service) : Text := Text.lower service.name

end Service

end GoStubs
