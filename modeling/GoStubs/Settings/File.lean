import GoStubs.Disk.File
import GoStubs.Settings.Read

/-!
# Configuration files

Settings are read from a file on the disk.
-/

namespace GoStubs.Settings

def ofFile (disk : Disk) (path : Path) : Except Fault Settings :=
  match disk.readText path with
  | .ok document => ofToml document
  | .error error => .error (.io path (.disk error))

end GoStubs.Settings
