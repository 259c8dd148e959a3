import DesiredState.Conversation
import DesiredState.Snapshot

/-!
# A scripted device

A device in memory for rehearsals.  It stores resources, records every request
it gets, replies to polls from a script, and fails the next request of a sort
when told to.  Once its script is used up, polls find their job completed.
-/

namespace DesiredState

/-- The sorts of requests. -/
inductive Request.Sort where
  | lookUp
  | read
  | create
  | update
  | delete
  | submit
  | poll
deriving Inhabited, Repr, DecidableEq

namespace Request

/-- The sort of a request. -/
def sort : Request → Request.Sort
  | .lookUp _ => .lookUp
  | .read _ => .read
  | .create _ _ => .create
  | .update _ _ => .update
  | .delete _ => .delete
  | .submit _ _ _ => .submit
  | .poll _ _ => .poll

/-- The name of a sort of requests, as a record of requests shows it. -/
def Sort.name : Request.Sort → String
  | .lookUp => "exists"
  | .read => "read_current"
  | .create => "create"
  | .update => "update"
  | .delete => "delete"
  | .submit => "submit_task"
  | .poll => "poll_task"

/-- The name of a request, as a record of requests shows it. -/
def name (request : Request) : String :=
  request.sort.name

end Request

namespace Device

/-- What is said of a resource that is not there. -/
def notFound (key : String) : Failure :=
  .answered 404 (some s!"The requested object ({key}) was not found.")

/-- The state of a scripted device. -/
structure Script where
  stored : Snapshot := .empty
  /-- The recorded requests, in order. -/
  record : List Request := []
  /-- The replies to polls that are still to come, each for one job. -/
  polls : List (Job × Except Failure Observation) := []
  /-- The failures that are still to come, each for one sort of requests. -/
  failures : List (Request.Sort × Failure) := []
  /-- Whether deleting reports success and leaves the resource in place. -/
  sticky : Bool := false
  /-- How many jobs were submitted. -/
  submitted : Nat := 0
deriving Inhabited

/-- The first payload under a key, and the entries without it. -/
def takeFirst {κ α : Type} [DecidableEq κ] (key : κ) :
    List (κ × α) → Option (α × List (κ × α))
  | [] => none
  | (known, payload) :: rest =>
      if known = key then
        some (payload, rest)
      else
        (takeFirst key rest).map fun (found, left) => (found, (known, payload) :: left)

namespace Script

/-- The state with one more recorded request. -/
def recorded (script : Script) (request : Request) : Script :=
  { script with record := script.record ++ [request] }

/-- The reply to a request that no failure is scripted for. -/
def serve (script : Script) : (request : Request) → request.Reply × Script
  | .lookUp key => (.ok (script.stored.get? key.display).isSome, script)
  | .read key =>
      match script.stored.get? key.display with
      | some resource => (.ok resource, script)
      | none => (.error (notFound key.display), script)
  | .create key body =>
      (.ok (), { script with stored := script.stored.insert key.display body })
  | .update key body =>
      match script.stored.get? key.display with
      | some resource =>
          (.ok (),
            { script with stored := script.stored.insert key.display (resource.update body) })
      | none => (.error (.answered 404 none), script)
  | .delete key =>
      if script.sticky then
        (.ok (), script)
      else
        (.ok (), { script with stored := script.stored.erase key.display })
  | .submit _ _ _ =>
      let count := script.submitted + 1
      (.ok s!"task-{count}", { script with submitted := count })
  | .poll job _ =>
      match takeFirst job script.polls with
      | some (reply, rest) => (reply, { script with polls := rest })
      | none => (.ok ⟨.completed, none⟩, script)

/-- The reply to a request: the next failure scripted for its sort, or else
what the device serves.  Either way the request is recorded. -/
def answer (request : Request) (script : Script) : request.Reply × Script :=
  let script := script.recorded request
  match takeFirst request.sort script.failures with
  | some (failure, rest) => (.error failure, { script with failures := rest })
  | none => script.serve request

end Script

/-- The scripted device. -/
def scripted : Device Script := ⟨Script.answer⟩

end Device
end DesiredState
