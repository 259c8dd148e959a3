import DesiredState.Proofs.Wait.Allowance

/-!
# Waits against any device

A wait asks nothing of a device but the same poll, again and again.  So all that
matters of the device is what these polls come back with, one after the other
(`Device.sightings`), and a wait goes as it does against a device that replays them.

* `Run.Mirrors` — two runs, be it with different devices, that come to the same with
  the same sleeps and the same requests;
* `Wait.follow_replayed` — a wait at any point mirrors the one against the replies;
* `Wait.track_replayed` — so does an operation that is only watched, and with that
  what is known of replies in a row is known of every device.
-/

namespace DesiredState

namespace Device

variable {σ : Type} (device : Device σ) (job : Job) (id : String) (state : σ)

/-- The state of a device after the same poll, so many times. -/
def polled (count : Nat) : σ :=
  device.after (List.replicate count (.poll job id)) state

/-- What the same poll comes back with, time after time; the first reply is the one of
index one. -/
def sightings (index : Nat) : Sighting :=
  (device.answer (.poll job id) (device.polled job id state (index - 1))).1

/-- One more poll gives the next reply. -/
theorem answer_polled (count : Nat) :
    device.answer (.poll job id) (device.polled job id state count) =
      (device.sightings job id state (count + 1), device.polled job id state (count + 1)) := by
  have hlater : device.polled job id state (count + 1) =
      (device.answer (.poll job id) (device.polled job id state count)).2 := by
    rw [polled, List.replicate_succ', after, List.foldl_append]
    rfl
  rw [hlater]
  rfl

end Device

namespace Run

variable {σ τ α : Type}

/-- Two runs, be it with different devices, that come to the same with the same sleeps
and the same requests. -/
structure Mirrors (run : Run σ α) (other : Run τ α) : Prop where
  result : run.result = other.result
  steps : run.steps = other.steps

namespace Mirrors

variable {run : Run σ α} {other : Run τ α}

theorem slept (h : run.Mirrors other) (duration : Nat) :
    (run.after (.slept duration)).Mirrors (other.after (.slept duration)) :=
  ⟨h.result, by rw [steps_after_slept, steps_after_slept, h.steps]⟩

theorem asked (h : run.Mirrors other) (request : Request) (reply : request.Reply) :
    (run.after (.asked request reply)).Mirrors (other.after (.asked request reply)) :=
  ⟨h.result, by rw [steps_after_asked, steps_after_asked, h.steps]⟩

theorem notifyAll {talk : Conversation α} {device : Device σ} {otherDevice : Device τ}
    {state : σ} {otherState : τ}
    (h : (talk.run device state).Mirrors (talk.run otherDevice otherState))
    (notices : List Notice) :
    ((Conversation.notifyAll notices talk).run device state).Mirrors
      ((Conversation.notifyAll notices talk).run otherDevice otherState) := by
  induction notices with
  | nil => exact h
  | cons notice rest ih => exact ⟨ih.result, ih.steps⟩

theorem done (result : α) (device : Device σ) (otherDevice : Device τ) (state : σ)
    (otherState : τ) :
    ((Conversation.done result).run device state).Mirrors
      ((Conversation.done result).run otherDevice otherState) :=
  ⟨rfl, rfl⟩

end Mirrors
end Run

namespace Wait

open Conversation

variable {σ : Type} {wait : Wait} {operation : Operation}

/-- A wait gives up without a request. -/
theorem giveUp_mirrors {τ : Type} (device : Device σ) (other : Device τ) (state : σ)
    (otherState : τ) (label : String) (seen : Seen) :
    ((wait.giveUp label seen).run device state).Mirrors
      ((wait.giveUp label seen).run other otherState) := by
  unfold giveUp
  split
  · exact ⟨rfl, rfl⟩
  · exact ⟨rfl, rfl⟩

/-- A wait that has made some polls goes on against a device as it does against the
replies that are still to come. -/
theorem follow_replayed (wait : Wait) (device : Device σ) (state : σ)
    (submission : Except Failure String) (label : String) (job : Job) (id : String)
    (patience : Nat) (seen : Seen) (count : Nat) :
    ((wait.follow label job id patience seen).run device
        (device.polled job id state count)).Mirrors
      ((wait.follow label job id patience seen).run
        (Device.replaying submission (device.sightings job id state)) count) := by
  induction patience generalizing seen count with
  | zero =>
      rw [follow]
      split
      · exact giveUp_mirrors _ _ _ _ label seen
      · exact ⟨rfl, rfl⟩
  | succ left ih =>
      rw [follow]
      split
      · exact giveUp_mirrors _ _ _ _ label seen
      · -- the device gives the reply that is replayed, and is in the state after it
        refine .slept ?_ _
        simp only [Conversation.run, Device.answer_polled, Device.answer_replaying]
        refine .asked ?_ _ _
        cases wait.absorb seen (device.sightings job id state (count + 1)) with
        | settled notices result => exact (Run.Mirrors.done result _ _ _ _).notifyAll notices
        | goOn notices next => exact .notifyAll (ih next (count + 1)) notices

/-- An operation that is only watched goes against a device as it does against the
replies of the device to its polls. -/
theorem track_replayed (wait : Wait) (device : Device σ) (state : σ)
    (submission : Except Failure String) (hmode : operation.mode = .watch) (patience : Nat) :
    ((wait.track patience operation).run device state).Mirrors
      ((wait.track patience operation).run (Device.replaying submission
        (device.sightings operation.job operation.key.path state)) 0) := by
  have hfollow := wait.follow_replayed device state submission operation.label operation.job
    operation.key.path patience {} 0
  unfold track await
  rw [hmode]
  dsimp only
  split
  · exact hfollow
  · exact hfollow.slept _

/-- A poll that finds the job still running does not settle the wait. -/
theorem not_settled_of_pending {replies : Nat → Sighting} {index : Nat}
    {result : Except Fault Outcome}
    (hpending : 0 < index → ∃ value, replies index = .ok ⟨.pending, value⟩) :
    ¬wait.Settled replies index result := by
  intro hsettled
  have hmade : 0 < index := by
    cases hsettled with
    | failed made | refused made => exact made
    | completed enough => omega
  obtain ⟨value, hreply⟩ := hpending hmade
  cases hsettled with
  | failed made reply => cases hreply.symm.trans reply
  | refused made reply => cases hreply.symm.trans reply
  | completed enough successes =>
      have hsuccess := successes index (by omega) (Nat.le_refl _)
      rw [hreply] at hsuccess
      cases hsuccess

end Wait
end DesiredState
