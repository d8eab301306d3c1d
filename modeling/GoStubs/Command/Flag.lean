import GoStubs.Path
import GoStubs.Project.Run

/-!
# Commands and flags

The program has three subcommands, and a help that is asked for like a fourth.
Flags stand in front of the subcommand or behind it; each of these two levels
has flags of its own, and two flags are common to both.
-/

namespace GoStubs

inductive Shell
  | bash
  | elvish
  | fish
  | powershell
  | zsh
  deriving DecidableEq, Repr

namespace Shell

def all : List Shell := [bash, elvish, fish, powershell, zsh]

def name : Shell → Text
  | bash => "bash".toList
  | elvish => "elvish".toList
  | fish => "fish".toList
  | powershell => "powershell".toList
  | zsh => "zsh".toList

def ofName? (name : Text) : Option Shell := all.find? fun shell => shell.name == name

end Shell

inductive Command
  | generate (root : Path) (config : Option Path) (policy : Policy) (dry : Bool)
  | scan (root : Path) (config : Option Path)
  | completions (shell : Shell)
  deriving DecidableEq, Repr

namespace Command

inductive Subcommand
  | generate
  | scan
  | completions
  deriving DecidableEq, Repr

namespace Subcommand

def all : List Subcommand := [generate, scan, completions]

def name : Subcommand → Text
  | generate => "generate".toList
  | scan => "scan".toList
  | completions => "completions".toList

def ofName? (name : Text) : Option Subcommand := all.find? fun subcommand => subcommand.name == name

end Subcommand

/-- A flag, or the argument that names a shell. -/
inductive Flag
  | verbose
  | help
  | version
  | failFast
  | dryRun
  | format
  | root
  | config
  | shell
  deriving DecidableEq, Repr

namespace Flag

def name : Flag → Text
  | verbose => "verbose".toList
  | help => "help".toList
  | version => "version".toList
  | failFast => "fail-fast".toList
  | dryRun => "dry-run".toList
  | format => "format".toList
  | root => "root".toList
  | config => "config".toList
  | shell => "shell".toList

/-- The letter of a flag after a single dash. -/
def letter? : Flag → Option Char
  | verbose => some 'v'
  | help => some 'h'
  | version => some 'V'
  | config => some 'c'
  | _ => none

def takesValue : Flag → Bool
  | format | root | config | shell => true
  | _ => false

/-- Whether a value is acceptable: a path is not empty and a shell is known. -/
def admits (flag : Flag) (value : Text) : Bool :=
  match flag with
  | root | config => !value.isEmpty
  | shell => (Shell.ofName? value).isSome
  | _ => true

/-- The flags in front of the subcommand, or behind it. -/
def ofLevel : Option Subcommand → List Flag
  | none => [verbose, format, help, version]
  | some .generate => [root, config, failFast, dryRun, verbose, format, help]
  | some .scan => [root, config, verbose, format, help]
  | some .completions => [verbose, format, help]

end Flag

end Command

end GoStubs
