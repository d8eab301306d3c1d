import GoStubs.Settings.Basic
import GoStubs.Settings.Toml

/-!
# Reading settings

A configuration file may give any of the settings, each at most once; the
others keep their defaults. Settings are checked as soon as they are read.
-/

namespace GoStubs.Settings

/-- Sets the given entries one by one; a key that is unknown or was set before is refused. -/
def update (settings : Settings) (seen : List Key) : List (Text × Text) → Option Settings
  | [] => some settings
  | (name, value) :: rest => do
    let key ← Key.ofName? name
    if seen.contains key then none else update (settings.set key value) (key :: seen) rest

def ofToml (document : Text) : Except Fault Settings := do
  match Toml.entries? document >>= update standard [] with
  | none => throw (.configuration "failed to parse configuration".toList)
  | some settings =>
    settings.check
    return settings

end GoStubs.Settings
