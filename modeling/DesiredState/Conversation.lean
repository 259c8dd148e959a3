import DesiredState.Attributes
import DesiredState.Fault
import DesiredState.Job
import DesiredState.Key

/-!
# Conversations with a device

A pass talks to a device: it asks, gets a reply, and goes on depending on the
reply; in between it sleeps and gives notice of what an operator should know.
A `Conversation` is that talk as a tree, with one branch for every reply, so
that what a pass does is known before any device is at hand.

A `Device` is any way of answering requests from a state.  `Conversation.run`
follows the one branch that a device's replies select and records the events
on it.
-/

namespace DesiredState

/-- What can be asked of a device. -/
inductive Request where
  /-- Whether a resource exists. -/
  | lookUp (key : Key)
  /-- The attributes of a resource, in wire form. -/
  | read (key : Key)
  | create (key : Key) (body : Attributes)
  /-- To set some attributes of a resource. -/
  | update (key : Key) (body : Attributes)
  | delete (key : Key)
  /-- To start a job on a resource. -/
  | submit (job : Job) (key : Key) (payload : Attributes)
  /-- How a job, or a condition of a resource, is getting on. -/
  | poll (job : Job) (id : String)
deriving Inhabited, Repr

/-- How far a job has come. -/
inductive Progress where
  | pending
  | completed
  /-- Finished with a failure that the device reports. -/
  | failed (detail : String)
deriving Inhabited, Repr, DecidableEq

namespace Progress

/-- Whether a job has come to its end. -/
def isTerminal : Progress → Bool
  | .pending => false
  | _ => true

/-- Progress as it is shown. -/
def display : Progress → String
  | .pending => "pending"
  | .completed => "completed"
  | .failed detail => s!"failed: {detail}"

end Progress

/-- What one poll observes. -/
structure Observation where
  progress : Progress
  /-- What was observed alongside, if anything. -/
  value : Option Attributes := none
deriving Inhabited, Repr

namespace Request

/-- The type of what a request is answered with. -/
abbrev Answer : Request → Type
  | .lookUp _ => Bool
  | .read _ => Attributes
  | .create _ _ => Unit
  | .update _ _ => Unit
  | .delete _ => Unit
  | .submit _ _ _ => String
  | .poll _ _ => Observation

/-- The reply to a request: its answer, or a failure. -/
abbrev Reply (request : Request) : Type :=
  Except Failure request.Answer

end Request

/-- What an operator is told while a job is awaited. -/
inductive Notice where
  /-- The connection broke on submission. -/
  | assumedAccepted
  /-- The device has been out of reach for long. -/
  | stillUnreachable
  /-- The wait ran out and goes on with what was seen last. -/
  | wentOnWithout
  | ranOut
  | jobFailed
deriving Inhabited, Repr, DecidableEq

namespace Notice

/-- Whether a notice is of an error, and not just a warning. -/
def isError : Notice → Bool
  | .ranOut | .jobFailed => true
  | _ => false

/-- The text of a notice. -/
def text : Notice → String
  | .assumedAccepted => "Submission lost the connection, assuming it was accepted"
  | .stillUnreachable => "Device still unreachable, continuing to wait for it to come back"
  | .wentOnWithout => "Wait budget exhausted, continuing with last observed value"
  | .ranOut => "Wait budget exhausted"
  | .jobFailed => "Operation failed"

/-- A notice as it is logged: its level and its text. -/
def line (notice : Notice) : String :=
  (if notice.isError then "ERROR " else "WARN ") ++ notice.text

end Notice

/-- A talk with a device that ends in a result, as a tree of its branches. -/
inductive Conversation (α : Type) where
  | done (result : α)
  /-- Asks, and goes on with the reply. -/
  | ask (request : Request) (next : request.Reply → Conversation α)
  /-- Sleeps for some milliseconds. -/
  | sleep (duration : Nat) (next : Conversation α)
  | notify (notice : Notice) (next : Conversation α)
  /-- The talk is broken off, with no result. -/
  | brokenOff

namespace Conversation

variable {α β : Type}

/-- Goes on with the result of a talk. -/
def bind : Conversation α → (α → Conversation β) → Conversation β
  | .done result, next => next result
  | .ask request reply, next => .ask request fun answer => (reply answer).bind next
  | .sleep duration rest, next => .sleep duration (rest.bind next)
  | .notify notice rest, next => .notify notice (rest.bind next)
  | .brokenOff, _ => .brokenOff

/-- Gives some notices, one after the other. -/
def notifyAll (notices : List Notice) (next : Conversation α) : Conversation α :=
  notices.foldr .notify next

end Conversation

/-- What happens on one branch of a conversation. -/
inductive Event where
  | asked (request : Request) (reply : request.Reply)
  /-- Some milliseconds went by. -/
  | slept (duration : Nat)
  | notified (notice : Notice)

namespace Event

/-- The time that an event takes, in milliseconds. -/
def duration? : Event → Option Nat
  | .slept duration => some duration
  | _ => none

/-- The notice that an event gives. -/
def notice? : Event → Option Notice
  | .notified notice => some notice
  | _ => none

/-- The request that an event makes. -/
def request? : Event → Option Request
  | .asked request _ => some request
  | _ => none

end Event

/-- A device: a way of answering every request from a state. -/
structure Device (σ : Type) where
  /-- The reply to a request, and the state after it. -/
  answer : (request : Request) → σ → request.Reply × σ

/-- What came of a conversation with a device. -/
structure Run (σ α : Type) where
  /-- The result; none when the talk was broken off. -/
  result : Option α
  /-- The state of the device at the end. -/
  state : σ
  /-- What happened, in order. -/
  events : List Event

namespace Run

variable {σ α : Type}

/-- The run with one more event at its start. -/
def after (event : Event) (run : Run σ α) : Run σ α :=
  { run with events := event :: run.events }

/-- The sleeps of a run, in order. -/
def sleeps (run : Run σ α) : List Nat :=
  run.events.filterMap Event.duration?

/-- The notices of a run, in order. -/
def notices (run : Run σ α) : List Notice :=
  run.events.filterMap Event.notice?

/-- The requests of a run, in order. -/
def requests (run : Run σ α) : List Request :=
  run.events.filterMap Event.request?

end Run

namespace Conversation

variable {σ α β : Type}

/-- A conversation with a device in some state. -/
def run (device : Device σ) : Conversation α → σ → Run σ α
  | .done result, state => ⟨some result, state, []⟩
  | .ask request next, state =>
      let (reply, after) := device.answer request state
      ((next reply).run device after).after (.asked request reply)
  | .sleep duration next, state => (next.run device state).after (.slept duration)
  | .notify notice next, state => (next.run device state).after (.notified notice)
  | .brokenOff, state => ⟨none, state, []⟩

end Conversation
end DesiredState
