import DesiredState.CommandLine.Files
import DesiredState.CommandLine.LogLevel
import DesiredState.CommandLine.Options
import DesiredState.Plan
import DesiredState.WorkOrder.Reader

/-!
# The command line

The program reads a work order and a snapshot, carries out the order against
the snapshot, writes the resulting snapshot if asked to, whether or not the
order succeeded, and prints the report or the setback.  It is written over any
way of reading and writing files, so that a run is a function of the arguments
and a folder.
-/

namespace DesiredState
namespace CommandLine

/-- What a run of the program hands back. -/
structure Answer where
  /-- The exit code: zero for success, one for a setback, two if the order was
  not carried out. -/
  code : Nat
  stdout : String := ""
  /-- What is logged, and what went wrong. -/
  stderr : String := ""
deriving Inhabited, Repr, DecidableEq

/-- The name of the program. -/
def programName : String := "bigip-converge"

/-- The version of the program. -/
def versionLine : String := programName ++ " 0.1.0\n"

/-- How the program is used. -/
def usageLine : String := "Usage: " ++ programName ++ " [OPTIONS] --task <TASK>\n"

/-- What the program says when it is asked for help. -/
def helpText : String :=
  "Reconcile a BIG-IP task against a device snapshot\n\n" ++ usageLine ++ "\nOptions:\n" ++
    String.join
      ["  -t, --task <TASK>                      Task file (YAML)\n",
        "  -s, --snapshot <SNAPSHOT>              ",
        "Device snapshot (JSON); a missing file is an empty device\n",
        "  -w, --write-snapshot <WRITE_SNAPSHOT>  ",
        "Write the resulting device snapshot here\n",
        "      --check                            ",
        "Report what would change without changing anything\n",
        "  -l, --log-level <LOG_LEVEL>            ",
        "Log level [default: warn]\n",
        "  -h, --help                             Print help\n",
        "  -V, --version                          Print version\n"]

/-- Why a run comes to nothing. -/
inductive Refusal where
  /-- A file cannot be read or written. -/
  | inaccessible (path reason : String)
  /-- A file holds no work order. -/
  | noWorkOrder (path : String)
  /-- A file holds no snapshot. -/
  | noSnapshot (path : String)
deriving Inhabited, Repr, DecidableEq

/-- The message of a refusal. -/
def Refusal.message : Refusal → String
  | .inaccessible path reason => s!"Failed to access '{path}': {reason}"
  | .noWorkOrder path => s!"Invalid task file '{path}': not a task"
  | .noSnapshot path => s!"Invalid snapshot '{path}': not a snapshot"

namespace Answer

/-- The answer to arguments that lead to no run. -/
def ofStop : Stop → Answer
  | .help => { code := 0, stdout := helpText }
  | .version => { code := 0, stdout := versionLine }
  | .misuse => { code := 2, stderr := "error: invalid arguments\n\n" ++ usageLine }

/-- The answer when a run comes to nothing. -/
def ofRefusal (refusal : Refusal) : Answer :=
  { code := 2, stderr := s!"{programName}: {refusal.message}\n" }

/-- The answer with some lines logged before it. -/
def log (answer : Answer) (lines : List String) : Answer :=
  { answer with stderr := String.join (lines.map (· ++ "\n")) ++ answer.stderr }

/-- The answer to what came of a work order. -/
def ofResult (level : LogLevel) : Option (Except Setback Report) → Answer
  | some (.ok report) => { code := 0, stdout := report.render ++ "\n" }
  | some (.error setback) =>
      let answer : Answer := { code := 1, stderr := setback.render ++ "\n" }
      answer.log (if level.admits true then ["ERROR Task failed"] else [])
  | none => { code := 1, stderr := "the wait was given up\n" }

end Answer

variable {m : Type → Type} [Monad m]

/-- Runs that may come to nothing. -/
abbrev Attempt (m : Type → Type) := ExceptT Refusal m

/-- Reads the work order of a file. -/
def readOrder (files : Files m) (path : String) : Attempt m WorkOrder := do
  match ← files.read path with
  | .text content =>
      match WorkOrder.ofText? content with
      | some order => return order
      | none => throw (.noWorkOrder path)
  | .missing => throw (.inaccessible path "No such file or directory")
  | .unreadable reason => throw (.inaccessible path reason)

/-- Reads the snapshot of a file.  A missing file is a device without
resources. -/
def readSnapshot (files : Files m) (path : String) : Attempt m Snapshot := do
  match ← files.read path with
  | .text content =>
      match Snapshot.ofText? content with
      | some snapshot => return snapshot
      | none => throw (.noSnapshot path)
  | .missing => return .empty
  | .unreadable reason => throw (.inaccessible path reason)

/-- Writes a snapshot to a file. -/
def writeSnapshot (files : Files m) (path : String) (snapshot : Snapshot) :
    Attempt m Unit := do
  match ← files.write path (snapshot.toJson.pretty ++ "\n") with
  | none => return ()
  | some reason => throw (.inaccessible path reason)

/-- Does what the options ask for. -/
def execute (files : Files m) (options : Options) : Attempt m Answer := do
  let order ← readOrder files options.task
  let snapshot ← match options.snapshot with
    | some path => readSnapshot files path
    | none => pure .empty
  let asked := { order with checkOnly := order.checkOnly || options.check }
  let run := Plan.run asked Plan.patience ⟨snapshot, []⟩
  if let some path := options.writeSnapshot then
    writeSnapshot files path run.state.snapshot
  let level := LogLevel.ofName options.logLevel
  return (Answer.ofResult level run.result).log (level.lines run.notices)

/-- Runs the program on some arguments. -/
def run (files : Files m) (arguments : List String) : m Answer :=
  match Options.read arguments with
  | .error stop => pure (.ofStop stop)
  | .ok options => do
      match ← (execute files options).run with
      | .ok answer => return answer
      | .error refusal => return .ofRefusal refusal

end CommandLine
end DesiredState
