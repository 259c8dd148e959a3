import DesiredState.Device.Scripted
import DesiredState.Text.Hidden

/-!
# Checking a record of requests

Checks on the requests that a scripted device has recorded: how often a sort
of request was made, in which order, and with which bodies.  A check that
fails says what was expected and what was found.
-/

namespace DesiredState
namespace Device

/-- Why a check of a record failed. -/
inductive Mismatch where
  /-- A request was made more or less often than expected. -/
  | count (request : String) (expected actual : Nat)
  /-- A request carried another body than expected. -/
  | body (request expected actual : String)
  /-- The requests came in another order than expected. -/
  | order (expected actual : List String)
deriving Inhabited, Repr, DecidableEq

/-- A character inside a quoted name: quotes and backslashes are escaped, and so
are the characters that would not show, some by a letter and most by their
code in braces. -/
def quotedChar (c : Char) : List Char :=
  if c = '"' then ['\\', '"']
  else if c = '\\' then ['\\', '\\']
  else if c = '\n' then ['\\', 'n']
  else if c = '\r' then ['\\', 'r']
  else if c = '\t' then ['\\', 't']
  else if c = '\x00' then ['\\', '0']
  else if Text.isHidden c then
    ['\\', 'u', '\x7b'] ++ Text.hexDigits c.toNat ++ ['\x7d']
  else [c]

/-- A list of names as it is shown: each in quotes, in brackets. -/
def quotedList (names : List String) : String :=
  let quoted := names.map fun name =>
    "\"" ++ String.ofList (name.toList.flatMap quotedChar) ++ "\""
  "[" ++ ", ".intercalate quoted ++ "]"

namespace Mismatch

/-- The text of a failed check. -/
def message : Mismatch → String
  | .count request expected actual =>
      s!"Expected '{request}' to be called {expected} time(s), got {actual}"
  | .body request expected actual =>
      s!"Body mismatch for '{request}': expected {expected}, got {actual}"
  | .order expected actual =>
      s!"Expected call order {quotedList expected}, got {quotedList actual}"

end Mismatch

/-- The bodies of the creations in a record, in order. -/
def createdBodies (record : List Request) : List Attributes :=
  record.filterMap fun
    | .create _ body => some body
    | _ => none

/-- The bodies of the updates in a record, in order. -/
def updatedBodies (record : List Request) : List Attributes :=
  record.filterMap fun
    | .update _ body => some body
    | _ => none

/-- The ids that were polled, in order. -/
def polledIds (record : List Request) : List String :=
  record.filterMap fun
    | .poll _ id => some id
    | _ => none

/-- Checks how often a request was made. -/
def checkCount (record : List Request) (name : String) (expected : Nat) :
    Except Mismatch Unit :=
  let actual := record.countP fun request => request.name == name
  if actual = expected then .ok () else .error (.count name expected actual)

/-- Checks that there was one creation, with one body in one order. -/
def checkCreated (record : List Request) (expected : Attributes) :
    Except Mismatch Unit := do
  checkCount record "create" 1
  match createdBodies record with
  | actual :: _ =>
      if actual.same expected && actual.names == expected.names then
        return ()
      else
        .error (.body "create" expected.display actual.display)
  | [] => return ()

/-- Checks the body of the last update. -/
def checkLastUpdate (record : List Request) (expected : Attributes) :
    Except Mismatch Unit :=
  match (updatedBodies record).getLast? with
  | some actual =>
      if actual.same expected then
        .ok ()
      else
        .error (.body "update" expected.display actual.display)
  | none => .error (.count "update" 1 0)

/-- Checks the names of all requests, in order. -/
def checkSequence (record : List Request) (expected : List String) :
    Except Mismatch Unit :=
  let actual := record.map Request.name
  if actual = expected then .ok () else .error (.order expected actual)

end Device
end DesiredState
