import DesiredState.Conversation

/-!
# What is logged

A log level admits the notices that are at least as grave as the level.
-/

namespace DesiredState
namespace CommandLine

/-- Which notices are logged. -/
inductive LogLevel where
  | off
  | errors
  /-- Errors and warnings. -/
  | warnings
deriving Inhabited, Repr, DecidableEq

namespace LogLevel

/-- The level of a name or of its number.  The more detailed levels admit
nothing more than warnings do, and a name that is no level's admits nothing. -/
def ofName (name : String) : LogLevel :=
  match name.toLower with
  | "error" | "1" => .errors
  | "warn" | "info" | "debug" | "trace" | "2" | "3" | "4" | "5" => .warnings
  | _ => .off

/-- Whether a level admits errors, or only warnings. -/
def admits : LogLevel → (ofError : Bool) → Bool
  | .off, _ => false
  | .errors, ofError => ofError
  | .warnings, _ => true

/-- The admitted lines of some notices. -/
def lines (level : LogLevel) (notices : List Notice) : List String :=
  (notices.filter fun notice => level.admits notice.isError).map Notice.line

end LogLevel
end CommandLine
end DesiredState
