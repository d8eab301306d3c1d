import GoStubs.Disk.File
import GoStubs.Text.Blank

/-!
# Manifests

The manifest of a repository names its module on a line of its own. Lines are
looked at one by one, so what follows the first name does not matter; a line
before it that is not valid UTF-8 is an error.
-/

namespace GoStubs.Manifest

open Text (Bytes)

/-- The module that a line declares. Quotes around the name are dropped. -/
def moduleOfLine? (line : Text) : Option Text :=
  match Text.dropPrefix? "module".toList (Text.trimStart line) with
  | some (c :: rest) =>
    if Text.isBlank c then
      let word := (Text.trimStart rest).takeWhile (! Text.isBlank ·)
      let bare := Text.dropEndWhile (· == '"') (word.dropWhile (· == '"'))
      if bare.isEmpty then none else some bare
    else none
  | _ => none

/-- The module of the first line that declares one. -/
def moduleOfLines : List Bytes → Except DiskError (Option Text)
  | [] => .ok none
  | bytes :: rest =>
    match Text.decode? bytes with
    | none => .error .invalidUtf8
    | some line =>
      match moduleOfLine? line with
      | some name => .ok (some name)
      | none => moduleOfLines rest

def moduleOfContent (content : Bytes) : Except DiskError (Option Text) :=
  moduleOfLines (Text.split (· == 0x0A) content)

def moduleName (disk : Disk) (path : Path) : Except Fault Text :=
  match disk.read path >>= moduleOfContent with
  | .ok (some name) => .ok name
  | .ok none => .error (.moduleNotFound path)
  | .error error => .error (.io path (.disk error))

end GoStubs.Manifest
