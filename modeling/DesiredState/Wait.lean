import DesiredState.Conversation

/-!
# Waiting for jobs

A job is submitted once and then polled at a fixed interval until it settles
or the budget of the wait runs out.  A strict wait that runs out is a fault; a
lenient one goes on with what was seen last.  A wait may tolerate that the
device is out of reach, and may ask for several successes in a row.

`Wait.absorb` is what one poll does to the wait, as a function of the reply
alone; `Wait.follow` asks, sleeps and absorbs until the wait is over.  A wait
without a budget may never end, so the caller says how many polls it has the
patience for; after that the talk is broken off.
-/

namespace DesiredState

/-- How long a wait may last. -/
inductive Wait.Budget where
  /-- Until the job settles. -/
  | unbounded
  /-- At most so many polls. -/
  | attempts (count : Nat)
  /-- At most so many milliseconds from the start of the wait. -/
  | deadline (limit : Nat)
deriving Inhabited, Repr, DecidableEq

/-- How one kind of job is awaited.  All times are in milliseconds. -/
structure Wait where
  /-- The sleep before each poll. -/
  interval : Nat := 1000
  /-- How long the wait may last. -/
  budget : Wait.Budget := .unbounded
  /-- Whether a wait that runs out goes on with what was seen last. -/
  lenient : Bool := false
  /-- The sleep between submission and the wait. -/
  initialDelay : Nat := 0
  /-- How many successes in a row end the wait. -/
  confirmations : Nat := 1
  /-- Where being out of reach is tolerated: after how many polls out of reach
  notice is given. -/
  tolerance : Option Nat := none
deriving Inhabited, Repr, DecidableEq

/-- Whether a job is started, or only watched. -/
inductive Mode where
  /-- The job is submitted and polled by its id. -/
  | submit
  /-- Nothing is submitted; the path of the resource is polled. -/
  | watch
deriving Inhabited, Repr, DecidableEq

/-- How a wait ended that did not fail.  The polls are counted in 32 bits. -/
inductive Outcome where
  | completed (polls : UInt32) (value : Option Attributes)
  /-- The wait ran out leniently. -/
  | gaveUp (polls : UInt32) (last : Option Attributes)
deriving Inhabited, Repr

namespace Outcome

/-- How many polls were counted. -/
def polls : Outcome → Nat
  | .completed polls _ => polls.toNat
  | .gaveUp polls _ => polls.toNat

/-- Whether the job completed. -/
def isCompleted : Outcome → Bool
  | .completed _ _ => true
  | .gaveUp _ _ => false

/-- What was observed last. -/
def value : Outcome → Option Attributes
  | .completed _ value => value
  | .gaveUp _ last => last

/-- What was observed last under a name. -/
def observed? (outcome : Outcome) (name : String) : Option Value :=
  outcome.value.bind fun set => set.get? name

end Outcome

/-- One job on one resource. -/
structure Operation where
  job : Job
  key : Key
  /-- What is submitted with the job. -/
  payload : Attributes
  /-- Whether the job is started, or only watched. -/
  mode : Mode
deriving Inhabited, Repr

namespace Operation

/-- An operation as it is named in messages. -/
def label (operation : Operation) : String :=
  operation.job.name ++ " on " ++ operation.key.display

end Operation

namespace Wait

/-- The wait that polls at an interval until the job settles. -/
def every (interval : Nat) : Wait := { interval }

/-- The wait with a number of successes in a row, at least one. -/
def confirmedBy (wait : Wait) (confirmations : Nat) : Wait :=
  { wait with confirmations := max confirmations 1 }

/-- The number of polls out of reach after which notice is given by default. -/
def defaultTolerance : Nat := 60

/-- What a wait has seen so far.  Its counts have 32 bits, and start again at zero
behind the last number; the time that it has slept is not limited. -/
structure Seen where
  polls : UInt32 := 0
  /-- The time that has gone by since the start of the wait. -/
  slept : Nat := 0
  /-- How many of the last polls were successes, without a break. -/
  streak : UInt32 := 0
  /-- How many polls found the device out of reach before any got through. -/
  unreachable : UInt32 := 0
  /-- Whether any poll got through. -/
  reached : Bool := false
  /-- Whether notice was given that the device is out of reach. -/
  notified : Bool := false
  /-- What was observed last. -/
  last : Option Attributes := none
deriving Inhabited, Repr

/-- Whether the budget has run out after some polls, and some time since the start
of the wait.  There is no clock here besides the sleeps: time passes only while
the wait sleeps, and requests take none of it.  Whatever is said of all devices
relies on that, since a slow device would use up a deadline by its replies. -/
def isOver (wait : Wait) (polls slept : Nat) : Bool :=
  match wait.budget with
  | .unbounded => false
  | .attempts count => count ≤ polls
  | .deadline limit => limit ≤ slept

/-- What one poll means for a wait. -/
inductive Verdict where
  | goOn (notices : List Notice) (seen : Seen)
  | settled (notices : List Notice) (result : Except Fault Outcome)
deriving Inhabited

/-- Whether a failed poll counts as a job that is still running. -/
def tolerates (wait : Wait) (failure : Failure) : Bool :=
  failure.isUnreachable && wait.tolerance.isSome

/-- What a wait has seen with one more poll and the interval before it, before the
reply is looked at. -/
def Seen.polled (seen : Seen) (interval : Nat) : Seen :=
  { seen with polls := seen.polls + 1, slept := seen.slept + interval }

/-- What an observation means for a wait.  Any observation counts as having
reached the device, and a value that comes with it replaces the last one. -/
def absorbObservation (wait : Wait) (seen : Seen) (observation : Observation) : Verdict :=
  let last := observation.value.or seen.last
  let reached : Seen := { seen with last, reached := true, unreachable := 0 }
  match observation.progress with
  | .pending => .goOn [] { reached with streak := 0 }
  | .completed =>
      if wait.confirmations ≤ (seen.streak + 1).toNat then
        .settled [] (.ok (.completed seen.polls last))
      else
        .goOn [] { reached with streak := seen.streak + 1 }
  | .failed detail => .settled [.jobFailed] (.error (.fatal detail))

/-- What a tolerated failure means for a wait.  Until the device is reached for
the first time such failures are counted, and notice is given once. -/
def absorbOutage (tolerance : Nat) (seen : Seen) : Verdict :=
  if seen.reached then
    -- after the first contact outages are not counted any more
    .goOn [] { seen with streak := 0 }
  else
    let unreachable := seen.unreachable + 1
    if tolerance ≤ unreachable.toNat && !seen.notified then
      .goOn [.stillUnreachable] { seen with streak := 0, unreachable, notified := true }
    else
      .goOn [] { seen with streak := 0, unreachable }

/-- What one poll means for a wait, by its reply. -/
def absorb (wait : Wait) (seen : Seen) (reply : Except Failure Observation) : Verdict :=
  let polled := seen.polled wait.interval
  match reply with
  | .ok observation => wait.absorbObservation polled observation
  | .error failure =>
      if wait.tolerates failure then
        absorbOutage (wait.tolerance.getD 0) polled
      else
        .settled [] (.error failure.fault)

/-- How a wait ends whose budget has run out. -/
def giveUp (wait : Wait) (label : String) (seen : Seen) :
    Conversation (Except Fault Outcome) :=
  if wait.lenient then
    .notify .wentOnWithout (.done (.ok (.gaveUp seen.polls seen.last)))
  else
    .notify .ranOut (.done (.error (.fatal
      s!"timed out waiting for {label} after {seen.polls.toNat} polls")))

/-- Polls a job until the wait is over, or the patience is. -/
def follow (wait : Wait) (label : String) (job : Job) (id : String) (patience : Nat)
    (seen : Seen) : Conversation (Except Fault Outcome) :=
  if wait.isOver seen.polls.toNat seen.slept then
    wait.giveUp label seen
  else
    match patience with
    | 0 => .brokenOff
    | left + 1 =>
        -- the first poll waits for its interval too
        .sleep wait.interval <| .ask (.poll job id) fun reply =>
          match wait.absorb seen reply with
          | .goOn notices next =>
              .notifyAll notices (wait.follow label job id left next)
          | .settled notices result => .notifyAll notices (.done result)

/-- Waits for a job of a known id, after the initial delay. -/
def await (wait : Wait) (operation : Operation) (patience : Nat) (id : String) :
    Conversation (Except Fault Outcome) :=
  let talk := wait.follow operation.label operation.job id patience {}
  if wait.initialDelay = 0 then talk else .sleep wait.initialDelay talk

/-- Starts an operation and waits for it.  Where outages are tolerated, a
connection lost on submission counts as acceptance, and the job is polled by
the label of the operation. -/
def track (wait : Wait) (patience : Nat) (operation : Operation) :
    Conversation (Except Fault Outcome) :=
  match operation.mode with
  | .watch => wait.await operation patience operation.key.path
  | .submit =>
      .ask (.submit operation.job operation.key operation.payload) fun
        | .ok id => wait.await operation patience id
        | .error failure =>
            if wait.tolerates failure then
              -- the job may have been taken before the connection was lost
              .notify .assumedAccepted (wait.await operation patience operation.label)
            else
              .done (.error failure.fault)

end Wait
end DesiredState
