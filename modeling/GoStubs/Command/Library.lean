import GoStubs.Command.Line

/-!
# What libraries add

Help, scripts for shells and complaints about a command line are texts that a
library makes up. Another library writes the paths in a report, and refuses to
if the bytes of a path are no text.
-/

namespace GoStubs

structure Library where
  page : Command.Topic → Text
  version : Text
  script : Shell → Text
  complaint : Command.Misuse → Text
  /-- Whether a path can be written. -/
  isText : Path → Bool

/-- Short texts. A path is known by its text, so each can be written. -/
def Library.brief : Library where
  page _ := "Usage: gen-client [OPTIONS] <COMMAND>\n".toList
  version := "gen-client 0.1.0\n".toList
  script _ := "complete -W \"generate scan completions help\" gen-client\n".toList
  complaint _ := "error: unexpected arguments\n".toList
  isText _ := true

end GoStubs
