import DesiredState.Conversation

/-!
# Branches of a conversation

A run of a conversation is one of its branches: the device picks the replies,
and nothing else in the branch depends on it.  `Conversation.Branch` relates a
talk to the calls on such a branch and to the result at its end, without any
device; `branch_run` says that every run against every device is one.  What is
said of all branches of a talk is therefore said of all devices, however their
replies depend on what was asked before.

* `branch_run` — runs are branches;
* `branch_bind` — a branch through two talks is a branch of the first followed
  by one of the second, unless the first is broken off;
* `branch_unique` — the calls of a branch tell where it ends.

Sleeps and notices are no calls, so they leave no trace on a branch.
-/

namespace DesiredState

/-- A request with the reply to it. -/
structure Call where
  request : Request
  reply : request.Reply

/-- The failure that a call comes back with, if it does. -/
def Call.failure? (call : Call) : Option Failure :=
  match call.reply with
  | .ok _ => none
  | .error failure => some failure

/-- The call that an event makes. -/
def Event.call? : Event → Option Call
  | .asked request reply => some ⟨request, reply⟩
  | _ => none

namespace Run

variable {σ α : Type}

/-- The calls of a run, in order. -/
def calls (run : Run σ α) : List Call :=
  run.events.filterMap Event.call?

/-- The requests of a run are those of its calls. -/
theorem requests_eq (run : Run σ α) : run.requests = run.calls.map Call.request := by
  rw [requests, calls, List.map_filterMap]
  congr 1
  funext event
  cases event with
  | asked request reply => rfl
  | slept duration => rfl
  | notified notice => rfl

end Run

namespace Conversation

variable {σ α β : Type}

/-- The calls on one branch of a talk, and the result at its end, which is
missing where the talk is broken off. -/
inductive Branch : Conversation α → List Call → Option α → Prop
  | done (result : α) : Branch (.done result) [] (some result)
  | ask {request : Request} {next : request.Reply → Conversation α} (reply : request.Reply)
      {calls : List Call} {result : Option α} (rest : Branch (next reply) calls result) :
      Branch (.ask request next) (⟨request, reply⟩ :: calls) result
  | sleep {duration : Nat} {next : Conversation α} {calls : List Call} {result : Option α}
      (rest : Branch next calls result) : Branch (.sleep duration next) calls result
  | notify {notice : Notice} {next : Conversation α} {calls : List Call} {result : Option α}
      (rest : Branch next calls result) : Branch (.notify notice next) calls result
  | brokenOff : Branch .brokenOff [] none

theorem calls_run_ask (device : Device σ) {request : Request}
    (next : request.Reply → Conversation α) (state : σ) :
    ((ask request next).run device state).calls =
      ⟨request, (device.answer request state).1⟩ ::
        ((next (device.answer request state).1).run device
          (device.answer request state).2).calls :=
  rfl

/-- What a device makes of a talk is one of its branches. -/
theorem branch_run (device : Device σ) (talk : Conversation α) (state : σ) :
    talk.Branch (talk.run device state).calls (talk.run device state).result := by
  induction talk generalizing state with
  | done result => exact .done result
  | ask request next ih => exact .ask _ (ih _ _)
  | sleep duration next ih => exact .sleep (ih _)
  | notify notice next ih => exact .notify (ih _)
  | brokenOff => exact .brokenOff

variable {calls : List Call}

@[simp] theorem branch_done_iff {value : α} {result : Option α} :
    (done value).Branch calls result ↔ calls = [] ∧ result = some value := by
  constructor
  · intro h
    cases h with
    | done => exact ⟨rfl, rfl⟩
  · rintro ⟨rfl, rfl⟩
    exact .done value

@[simp] theorem branch_ask_iff {request : Request} {next : request.Reply → Conversation α}
    {result : Option α} :
    (ask request next).Branch calls result ↔
      ∃ reply rest, calls = ⟨request, reply⟩ :: rest ∧ (next reply).Branch rest result := by
  constructor
  · intro h
    cases h with
    | ask reply rest => exact ⟨reply, _, rfl, rest⟩
  · rintro ⟨reply, rest, rfl, h⟩
    exact .ask reply h

@[simp] theorem branch_sleep_iff {duration : Nat} {next : Conversation α} {result : Option α} :
    (sleep duration next).Branch calls result ↔ next.Branch calls result := by
  constructor
  · intro h
    cases h with
    | sleep rest => exact rest
  · exact .sleep

@[simp] theorem branch_notify_iff {notice : Notice} {next : Conversation α}
    {result : Option α} :
    (notify notice next).Branch calls result ↔ next.Branch calls result := by
  constructor
  · intro h
    cases h with
    | notify rest => exact rest
  · exact .notify

@[simp] theorem branch_brokenOff_iff {result : Option α} :
    (brokenOff : Conversation α).Branch calls result ↔ calls = [] ∧ result = none := by
  constructor
  · intro h
    cases h with
    | brokenOff => exact ⟨rfl, rfl⟩
  · rintro ⟨rfl, rfl⟩
    exact .brokenOff

/-- Notices are passed over. -/
@[simp] theorem branch_notifyAll_iff {notices : List Notice} {next : Conversation α}
    {result : Option α} :
    (notifyAll notices next).Branch calls result ↔ next.Branch calls result := by
  induction notices with
  | nil => rfl
  | cons notice rest ih => exact branch_notify_iff.trans ih

/-- A branch through two talks goes through the first one to its end, and then
through the second one; or the first one is broken off. -/
theorem branch_bind {talk : Conversation α} {next : α → Conversation β} {result : Option β}
    (h : (talk.bind next).Branch calls result) :
    (∃ earlier value later, calls = earlier ++ later ∧ talk.Branch earlier (some value) ∧
        (next value).Branch later result) ∨
      talk.Branch calls none ∧ result = none := by
  induction talk generalizing calls with
  | done value => exact Or.inl ⟨[], value, calls, rfl, .done value, h⟩
  | ask request reply ih =>
      obtain ⟨answer, rest, rfl, hrest⟩ := branch_ask_iff.mp h
      rcases ih answer hrest with ⟨earlier, value, later, rfl, hfirst, hlater⟩ | ⟨hbroken, hnone⟩
      · exact Or.inl ⟨_ :: earlier, value, later, rfl, .ask answer hfirst, hlater⟩
      · exact Or.inr ⟨.ask answer hbroken, hnone⟩
  | sleep duration rest ih =>
      rcases ih (branch_sleep_iff.mp h) with ⟨earlier, value, later, rfl, hfirst, hlater⟩ |
        ⟨hbroken, hnone⟩
      · exact Or.inl ⟨earlier, value, later, rfl, .sleep hfirst, hlater⟩
      · exact Or.inr ⟨.sleep hbroken, hnone⟩
  | notify notice rest ih =>
      rcases ih (branch_notify_iff.mp h) with ⟨earlier, value, later, rfl, hfirst, hlater⟩ |
        ⟨hbroken, hnone⟩
      · exact Or.inl ⟨earlier, value, later, rfl, .notify hfirst, hlater⟩
      · exact Or.inr ⟨.notify hbroken, hnone⟩
  | brokenOff =>
      obtain ⟨rfl, rfl⟩ := branch_brokenOff_iff.mp h
      exact Or.inr ⟨.brokenOff, rfl⟩

/-- No branch of a talk goes on where another one ends. -/
theorem branch_unique_of_append {talk : Conversation α} {more : List Call}
    {result other : Option α} (h : talk.Branch calls result)
    (hmore : talk.Branch (calls ++ more) other) : more = [] ∧ result = other := by
  induction h with
  | done value =>
      obtain ⟨hnil, rfl⟩ := branch_done_iff.mp hmore
      exact ⟨hnil, rfl⟩
  | ask reply rest ih =>
      obtain ⟨_, _, heq, hrest⟩ := branch_ask_iff.mp hmore
      cases heq
      exact ih hrest
  | sleep rest ih => exact ih (branch_sleep_iff.mp hmore)
  | notify rest ih => exact ih (branch_notify_iff.mp hmore)
  | brokenOff =>
      obtain ⟨hnil, rfl⟩ := branch_brokenOff_iff.mp hmore
      exact ⟨hnil, rfl⟩

/-- At most one branch of a talk stands at the start of a list of calls. -/
theorem branch_unique {talk : Conversation α} {first second rest more : List Call}
    {result other : Option α} (hfirst : talk.Branch first result)
    (hsecond : talk.Branch second other) (hsame : first ++ rest = second ++ more) :
    first = second ∧ rest = more ∧ result = other := by
  rcases List.append_eq_append_iff.mp hsame with ⟨gap, rfl, rfl⟩ | ⟨gap, rfl, rfl⟩
  · obtain ⟨rfl, rfl⟩ := branch_unique_of_append hfirst hsecond
    exact ⟨by rw [List.append_nil], rfl, rfl⟩
  · obtain ⟨rfl, rfl⟩ := branch_unique_of_append hsecond hfirst
    exact ⟨by rw [List.append_nil], rfl, rfl⟩

end Conversation
end DesiredState
