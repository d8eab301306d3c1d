import GoStubs.Command.Flag

/-!
# What a command looks at

A command reads its configuration file, the manifest and the files below the
scan directory, and it writes below the output directory. No other part of the
file system matters to it.
-/

namespace GoStubs.Command

def config? : Command → Option Path
  | .generate _ config .. | .scan _ config => config
  | .completions _ => none

def root? : Command → Option Path
  | .generate root .. | .scan root _ => some root
  | .completions _ => none

/-- The places that a command with the given settings looks at. -/
def places (command : Command) (settings : Settings) : List Path :=
  match command.root? with
  | none => []
  | some root =>
    [root, root.join settings.manifest, root.join settings.scanDir, root.join settings.outputDir]

end GoStubs.Command
