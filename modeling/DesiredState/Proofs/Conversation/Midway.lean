import DesiredState.Proofs.Conversation

/-!
# Runs midway

At every point of a run the device is in the state that the requests up to
there have brought it to.  This is what is left when the run is cut off at that
point, and it is where a talk that is part of a longer one begins.

* `state_run` — a run ends in the state after all of its requests;
* `events_run_bind` — the events of two talks in a row are those of the first
  one, followed by those of the second one from where the first one ended;
* `Throughout` — what holds before the first request of a run and after each
  one of them.
-/

namespace DesiredState

/-- The state of a device after some requests, one after the other. -/
def Device.after {σ : Type} (device : Device σ) (requests : List Request) (state : σ) : σ :=
  requests.foldl (fun state request => (device.answer request state).2) state

@[simp] theorem Run.result_after {σ α : Type} {run : Run σ α} (event : Event) :
    (run.after event).result = run.result :=
  rfl

namespace Conversation

variable {σ α β : Type} {device : Device σ}

/-- A run ends in the state after all of its requests. -/
theorem state_run (talk : Conversation α) (state : σ) :
    (talk.run device state).state = device.after (talk.run device state).requests state := by
  induction talk generalizing state with
  | done result => rfl
  | ask request next ih => exact ih _ _
  | sleep duration next ih => exact ih _
  | notify notice next ih => exact ih _
  | brokenOff => rfl

/-! ## Two talks in a row -/

/-- The second of two talks has a result only where the first one has. -/
theorem result_run_bind {talk : Conversation α} {next : α → Conversation β} {state : σ}
    {result : β} (h : ((talk.bind next).run device state).result = some result) :
    ∃ value, (talk.run device state).result = some value ∧
      ((next value).run device (talk.run device state).state).result = some result := by
  induction talk generalizing state with
  | done value => exact ⟨value, rfl, h⟩
  | ask request reply ih => exact ih _ h
  | sleep duration rest ih => exact ih h
  | notify notice rest ih => exact ih h
  | brokenOff => cases h

/-- The events of two talks in a row are those of the one and then those of the
other. -/
theorem events_run_bind {talk : Conversation α} (next : α → Conversation β) {state : σ}
    {value : α} (h : (talk.run device state).result = some value) :
    ((talk.bind next).run device state).events =
      (talk.run device state).events ++
        ((next value).run device (talk.run device state).state).events := by
  induction talk generalizing state with
  | done other =>
      obtain rfl := Option.some.inj h
      rfl
  | ask request reply ih => exact congrArg _ (ih _ h)
  | sleep duration rest ih => exact congrArg _ (ih h)
  | notify notice rest ih => exact congrArg _ (ih h)
  | brokenOff => cases h

/-! ## Every point of a run -/

/-- A property of states holds throughout a run: before its first request, and
after each one of them. -/
def Throughout (device : Device σ) (talk : Conversation α) (state : σ) (holds : σ → Prop) :
    Prop :=
  ∀ count, holds (device.after ((talk.run device state).requests.take count) state)

variable {state : σ} {holds : σ → Prop}

theorem Throughout.mono {talk : Conversation α} {weaker : σ → Prop}
    (h : Throughout device talk state holds) (hweaker : ∀ state, holds state → weaker state) :
    Throughout device talk state weaker :=
  fun count => hweaker _ (h count)

theorem throughout_done {result : α} (h : holds state) :
    Throughout device (.done result) state holds := by
  intro count
  have hnone : ((done result).run device state).requests.take count = [] := List.take_nil
  rw [hnone]
  exact h

theorem throughout_brokenOff (h : holds state) :
    Throughout device (.brokenOff : Conversation α) state holds := by
  intro count
  have hnone : ((brokenOff : Conversation α).run device state).requests.take count = [] :=
    List.take_nil
  rw [hnone]
  exact h

/-- What holds throughout a talk holds before its first request, and throughout
what follows the reply. -/
theorem throughout_ask_iff {request : Request} {next : request.Reply → Conversation α} :
    Throughout device (.ask request next) state holds ↔
      holds state ∧ Throughout device (next (device.answer request state).1)
        (device.answer request state).2 holds := by
  constructor
  · intro h
    exact ⟨h 0, fun count => h (count + 1)⟩
  · rintro ⟨hbefore, hrest⟩ count
    cases count with
    | zero => exact hbefore
    | succ count => exact hrest count

/-- A sleep is no request. -/
theorem throughout_sleep {duration : Nat} {next : Conversation α}
    (h : Throughout device next state holds) :
    Throughout device (.sleep duration next) state holds :=
  h

/-- What holds throughout two talks in a row holds throughout the one, and then
throughout the other from where the one ended. -/
theorem throughout_bind {talk : Conversation α} {next : α → Conversation β}
    (hfirst : Throughout device talk state holds)
    (hnext : ∀ value, (talk.run device state).result = some value →
      Throughout device (next value) (talk.run device state).state holds) :
    Throughout device (talk.bind next) state holds := by
  induction talk generalizing state with
  | done value => exact hnext value rfl
  | ask request reply ih =>
      obtain ⟨hbefore, hrest⟩ := throughout_ask_iff.mp hfirst
      exact throughout_ask_iff.mpr ⟨hbefore, ih _ hrest hnext⟩
  | sleep duration rest ih => exact ih hfirst hnext
  | notify notice rest ih => exact ih hfirst hnext
  | brokenOff => exact hfirst

end Conversation
end DesiredState
