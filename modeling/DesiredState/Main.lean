import DesiredState.CommandLine

/-!
# The program

Runs the command line on the files of the disk.
-/

namespace DesiredState
namespace CommandLine

/-- The files of the disk. -/
def disk : Files IO where
  read path := do
    try
      return .text (← IO.FS.readFile path)
    catch
      | .noFileOrDirectory _ _ _ => return .missing
      | error => return .unreadable (toString error)
  write path content := do
    try
      IO.FS.writeFile path content
      return none
    catch error => return some (toString error)

end CommandLine
end DesiredState

/-- Runs the program and prints its answer. -/
def main (arguments : List String) : IO UInt32 := do
  let answer ← DesiredState.CommandLine.run DesiredState.CommandLine.disk arguments
  (← IO.getStdout).putStr answer.stdout
  (← IO.getStderr).putStr answer.stderr
  return answer.code.toUInt32
