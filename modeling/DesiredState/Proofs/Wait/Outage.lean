import DesiredState.Proofs.Wait.Allowance

/-!
# Outages in a tolerant wait

A wait that tolerates outages counts them until the device is first reached, and
gives notice when there have been many.  Nothing else comes of the count: a poll
that finds the device out of reach is taken for one that finds the job still
running and shows no value.

* `Device.withoutOutages` — the device whose polls show just that in place of
  every outage;
* `Wait.tolerating` — the wait with another number of outages before the notice.

What two such waits have seen differs only in the count (`Seen.Agrees`), so one
poll means the same for both (`absorb_agrees`), and so does a whole wait
(`follow_alike`).
-/

namespace DesiredState

/-- A poll, with an outage shown as a job that is still running. -/
def Sighting.withoutOutage : Sighting → Sighting
  | .ok observation => .ok observation
  | .error failure =>
      if failure.isUnreachable then .ok ⟨.pending, none⟩ else .error failure

/-- A device that shows a job as still running wherever it is out of reach for a
poll.  All other requests are answered as before. -/
def Device.withoutOutages {σ : Type} (device : Device σ) : Device σ where
  answer
    | .poll job id, state =>
        let (reply, after) := device.answer (.poll job id) state
        (Sighting.withoutOutage reply, after)
    | request, state => device.answer request state

/-- Where the polls are replies in a row, the outages are replaced one by one. -/
theorem Device.withoutOutages_replaying (submission : Except Failure String)
    (replies : Nat → Sighting) :
    (replaying submission replies).withoutOutages =
      replaying submission fun index => (replies index).withoutOutage := by
  unfold withoutOutages replaying
  congr 1
  funext request polls
  cases request with
  | poll | submit | lookUp | read | create | update | delete => rfl

namespace Run

variable {σ α : Type} {run other : Run σ α}

/-- Two runs that differ at most in what the polls came back with and in what an
operator was told. -/
structure Alike (run other : Run σ α) : Prop where
  result : run.result = other.result
  state : run.state = other.state
  /-- The same sleeps and the same requests, in the same order. -/
  steps : run.steps = other.steps

namespace Alike

theorem refl (run : Run σ α) : run.Alike run :=
  ⟨rfl, rfl, rfl⟩

theorem symm (h : run.Alike other) : other.Alike run :=
  ⟨h.result.symm, h.state.symm, h.steps.symm⟩

theorem trans {third : Run σ α} (h : run.Alike other) (hnext : other.Alike third) :
    run.Alike third :=
  ⟨h.result.trans hnext.result, h.state.trans hnext.state, h.steps.trans hnext.steps⟩

theorem slept (h : run.Alike other) (duration : Nat) :
    (run.after (.slept duration)).Alike (other.after (.slept duration)) :=
  ⟨h.result, h.state, by rw [steps_after_slept, steps_after_slept, h.steps]⟩

theorem asked (h : run.Alike other) (request : Request) (reply otherReply : request.Reply) :
    (run.after (.asked request reply)).Alike (other.after (.asked request otherReply)) :=
  ⟨h.result, h.state, by rw [steps_after_asked, steps_after_asked, h.steps]⟩

theorem notified (h : run.Alike other) (notice otherNotice : Notice) :
    (run.after (.notified notice)).Alike (other.after (.notified otherNotice)) :=
  ⟨h.result, h.state, h.steps⟩

/-- Notices may be given on either side. -/
theorem notifyAll {talk otherTalk : Conversation α} {device otherDevice : Device σ}
    {state otherState : σ}
    (h : (talk.run device state).Alike (otherTalk.run otherDevice otherState))
    (notices otherNotices : List Notice) :
    ((Conversation.notifyAll notices talk).run device state).Alike
      ((Conversation.notifyAll otherNotices otherTalk).run otherDevice otherState) := by
  have hgiven : ∀ (given : List Notice) (talk : Conversation α) (device : Device σ)
      (state : σ), ((Conversation.notifyAll given talk).run device state).Alike
        (talk.run device state) := by
    intro given talk device state
    induction given with
    | nil => exact refl _
    | cons notice rest ih => exact ⟨ih.result, ih.state, ih.steps⟩
  exact (hgiven notices talk device state).trans
    (h.trans (hgiven otherNotices otherTalk otherDevice otherState).symm)

theorem done (result : α) (device otherDevice : Device σ) (state : σ) :
    ((Conversation.done result).run device state).Alike
      ((Conversation.done result).run otherDevice state) :=
  refl _

variable {device : Device σ}

/-- A poll leads to the same, if it does so whatever it comes back with. -/
theorem poll {job : Job} {id : String} {next otherNext : Sighting → Conversation α}
    (h : ∀ reply after, ((next reply).run device after).Alike
      ((otherNext reply.withoutOutage).run device.withoutOutages after)) (state : σ) :
    ((Conversation.ask (.poll job id) next).run device state).Alike
      ((Conversation.ask (.poll job id) otherNext).run device.withoutOutages state) :=
  (h _ _).asked (.poll job id) _ _

/-- A submission is answered the same, and leads to the same if it does so
whatever the answer. -/
theorem submission {job : Job} {key : Key} {payload : Attributes}
    {next otherNext : Except Failure String → Conversation α}
    (h : ∀ reply after, ((next reply).run device after).Alike
      ((otherNext reply).run device.withoutOutages after)) (state : σ) :
    ((Conversation.ask (.submit job key payload) next).run device state).Alike
      ((Conversation.ask (.submit job key payload) otherNext).run
        device.withoutOutages state) :=
  (h _ _).asked (.submit job key payload) _ _

end Alike
end Run

namespace Wait

open Conversation

variable {wait : Wait} {seen other : Seen}

/-- A wait that tolerates outages, and gives notice after so many. -/
def tolerating (wait : Wait) (limit : Nat) : Wait :=
  { wait with tolerance := some limit }

theorem isOver_tolerating (wait : Wait) (limit : Nat) :
    (wait.tolerating limit).isOver = wait.isOver :=
  rfl

theorem tolerates_tolerating (h : wait.tolerance.isSome = true) (limit : Nat) :
    (wait.tolerating limit).tolerates = wait.tolerates := by
  funext failure
  rw [tolerates, tolerates, h]
  rfl

/-- What two waits have seen is the same, up to the count of outages. -/
structure Seen.Agrees (seen other : Seen) : Prop where
  polls : seen.polls = other.polls
  slept : seen.slept = other.slept
  streak : seen.streak = other.streak
  last : seen.last = other.last

/-- One more poll leaves them so. -/
theorem Seen.Agrees.polled (h : seen.Agrees other) (interval : Nat) :
    (seen.polled interval).Agrees (other.polled interval) :=
  ⟨congrArg (· + 1) h.polls, congrArg (· + interval) h.slept, h.streak, h.last⟩

/-- A poll means the same for two waits, up to notices and the count of outages. -/
inductive Verdict.Agrees : Verdict → Verdict → Prop
  | goOn {notices otherNotices : List Notice} {seen other : Seen} (agrees : seen.Agrees other) :
      Agrees (.goOn notices seen) (.goOn otherNotices other)
  | settled {notices otherNotices : List Notice} (result : Except Fault Outcome) :
      Agrees (.settled notices result) (.settled otherNotices result)

/-- A wait goes on after a tolerated outage as it does after a poll that shows a
job still running and no value, whatever its count. -/
theorem absorbOutage_agrees (h : seen.Agrees other) (limit : Nat) :
    (absorbOutage limit seen).Agrees (wait.absorbObservation other ⟨.pending, none⟩) := by
  unfold absorbOutage
  dsimp only
  split
  · exact .goOn ⟨h.polls, h.slept, rfl, h.last⟩
  · split
    · exact .goOn ⟨h.polls, h.slept, rfl, h.last⟩
    · exact .goOn ⟨h.polls, h.slept, rfl, h.last⟩

/-- An observation means the same after the same polls. -/
theorem absorbObservation_agrees (h : seen.Agrees other) (observation : Observation) :
    (wait.absorbObservation seen observation).Agrees
      (wait.absorbObservation other observation) := by
  obtain ⟨progress, value⟩ := observation
  have hlast : value.or seen.last = value.or other.last := by rw [h.last]
  cases progress with
  | pending => exact .goOn ⟨h.polls, h.slept, rfl, hlast⟩
  | completed =>
      simp only [absorbObservation, h.polls, h.streak, hlast]
      split
      · exact .settled _
      · exact .goOn ⟨rfl, h.slept, rfl, rfl⟩
  | failed detail => exact .settled _

/-- One poll means the same for a tolerant wait, whatever its count of outages and
whenever it gives notice of them, and for one that is shown no outage. -/
theorem absorb_agrees (htolerant : wait.tolerance.isSome = true) (h : seen.Agrees other)
    (limit : Nat) (sighting : Sighting) :
    (wait.absorb seen sighting).Agrees
      ((wait.tolerating limit).absorb other sighting.withoutOutage) := by
  cases sighting with
  | ok observation => exact absorbObservation_agrees (h.polled wait.interval) observation
  | error failure =>
      have htolerates : wait.tolerates failure = failure.isUnreachable := by
        rw [tolerates, htolerant, Bool.and_true]
      by_cases hunreachable : failure.isUnreachable = true
      · have htolerated : wait.tolerates failure = true := htolerates.trans hunreachable
        rw [Sighting.withoutOutage, if_pos hunreachable]
        simp only [absorb, if_pos htolerated]
        exact absorbOutage_agrees (h.polled wait.interval) _
      · have hrefused : ¬wait.tolerates failure = true := by rwa [htolerates]
        rw [Sighting.withoutOutage, if_neg hunreachable, absorb, if_neg hrefused, absorb,
          tolerates_tolerating htolerant, if_neg hrefused]
        exact .settled _

variable {σ : Type} (device : Device σ) (limit : Nat)

/-- A wait that has run out gives up alike. -/
theorem follow_alike_of_isOver (h : seen.Agrees other)
    (hover : wait.isOver seen.polls.toNat seen.slept = true) (label : String) (job : Job)
    (id : String) (patience : Nat) (state : σ) :
    ((wait.follow label job id patience seen).run device state).Alike
      (((wait.tolerating limit).follow label job id patience other).run
        device.withoutOutages state) := by
  have hsame : (wait.tolerating limit).giveUp label other = wait.giveUp label seen := by
    rw [giveUp, giveUp, h.polls, h.last]
    rfl
  rw [follow.eq_def wait, follow.eq_def (wait.tolerating limit), isOver_tolerating, ← h.polls,
    ← h.slept, if_pos hover, if_pos hover, hsame, giveUp]
  split
  · exact .refl _
  · exact .refl _

/-- A tolerant wait asks, sleeps and ends as one that is shown no outage. -/
theorem follow_alike (htolerant : wait.tolerance.isSome = true) (h : seen.Agrees other)
    (label : String) (job : Job) (id : String) (patience : Nat) (state : σ) :
    ((wait.follow label job id patience seen).run device state).Alike
      (((wait.tolerating limit).follow label job id patience other).run
        device.withoutOutages state) := by
  -- on the patience; what the two waits have seen agrees before each poll
  induction patience generalizing seen other state with
  | zero =>
      by_cases hover : wait.isOver seen.polls.toNat seen.slept = true
      · exact follow_alike_of_isOver device limit h hover label job id 0 state
      · rw [follow, follow, isOver_tolerating, ← h.polls, ← h.slept, if_neg hover, if_neg hover]
        exact .refl _
  | succ left ih =>
      by_cases hover : wait.isOver seen.polls.toNat seen.slept = true
      · exact follow_alike_of_isOver device limit h hover label job id (left + 1) state
      · rw [follow, follow, isOver_tolerating, ← h.polls, ← h.slept, if_neg hover, if_neg hover]
        refine .slept (.poll (fun reply after => ?_) state) _
        have hverdict := absorb_agrees htolerant h limit reply
        generalize wait.absorb seen reply = verdict at hverdict ⊢
        generalize (wait.tolerating limit).absorb other reply.withoutOutage = otherVerdict
          at hverdict ⊢
        cases hverdict with
        | goOn agrees => exact .notifyAll (ih agrees after) _ _
        | settled result => exact .notifyAll (.done result _ _ after) _ _

theorem await_alike (htolerant : wait.tolerance.isSome = true) (operation : Operation)
    (patience : Nat) (id : String) (state : σ) :
    ((wait.await operation patience id).run device state).Alike
      (((wait.tolerating limit).await operation patience id).run
        device.withoutOutages state) := by
  have hnone : Seen.Agrees {} {} := ⟨rfl, rfl, rfl, rfl⟩
  have hfollow := follow_alike device limit htolerant hnone operation.label operation.job id
    patience state
  unfold await
  have hsame : (wait.tolerating limit).initialDelay = wait.initialDelay := rfl
  dsimp only
  rw [hsame]
  by_cases hdelay : wait.initialDelay = 0
  · rw [if_pos hdelay, if_pos hdelay]
    exact hfollow
  · rw [if_neg hdelay, if_neg hdelay]
    exact .slept hfollow _

/-- A tolerant wait tracks an operation as one does that is shown no outage, after
however many outages that one would give notice. -/
theorem track_alike (htolerant : wait.tolerance.isSome = true) (operation : Operation)
    (patience : Nat) (state : σ) :
    ((wait.track patience operation).run device state).Alike
      (((wait.tolerating limit).track patience operation).run device.withoutOutages state) := by
  unfold track
  cases operation.mode with
  | watch => exact await_alike device limit htolerant operation patience _ state
  | submit =>
      refine .submission (fun reply after => ?_) state
      cases reply with
      | ok id => exact await_alike device limit htolerant operation patience id after
      | error failure =>
          dsimp only
          rw [tolerates_tolerating htolerant]
          by_cases htolerated : wait.tolerates failure = true
          · rw [if_pos htolerated, if_pos htolerated]
            exact .notified (await_alike device limit htolerant operation patience _ after) _ _
          · rw [if_neg htolerated, if_neg htolerated]
            exact .refl _

/-- For a wait that tolerates outages they are polls of a job that is still running
and shows no value, and after how many of them it gives notice makes no
difference: it comes to the same with the same sleeps and the same requests. -/
theorem outage_is_pending (htolerant : wait.tolerance.isSome = true) (operation : Operation)
    (patience : Nat) (state : σ) :
    ((wait.track patience operation).run device state).Alike
        ((wait.track patience operation).run device.withoutOutages state) ∧
      ∀ limit, ((wait.track patience operation).run device state).Alike
        (((wait.tolerating limit).track patience operation).run device state) := by
  constructor
  · obtain ⟨own, hown⟩ := Option.isSome_iff_exists.mp htolerant
    have hsame : wait.tolerating own = wait := by
      rw [tolerating, ← hown]
    have halike := track_alike device own htolerant operation patience state
    rwa [hsame] at halike
  · intro limit
    have hother : (wait.tolerating limit).tolerance.isSome = true := rfl
    exact (track_alike device limit htolerant operation patience state).trans
      (track_alike device limit hother operation patience state).symm

/-- A wait for two successes in a row, with notice after three outages. -/
def rebooting : Wait where
  interval := 10000
  confirmations := 2
  tolerance := some 3

/-- The device is out of reach for three polls, shows a success, is out of reach
again and then shows successes. -/
def interrupted : Nat → Sighting
  | 1 | 2 | 3 => .error ⟨.unreachable, none, some "Connection refused"⟩
  | 4 => .ok ⟨.completed, some ⟨[("value", .text "up")]⟩⟩
  | 5 => .error ⟨.timeout, none, none⟩
  | _ => .ok ⟨.completed, none⟩

/-- The outage between the successes breaks them off, as a job still running would;
the notice after the third outage is the only difference. -/
theorem outages_of_interrupted :
    rebooting.tolerance.isSome = true ∧
      (let run := (rebooting.track 7 watching).run (Device.replaying (.ok "") interrupted) 0
      run.result = some (.ok (.completed 7 (some ⟨[("value", .text "up")]⟩))) ∧
        run.notices = [.stillUnreachable] ∧
        run.Alike ((rebooting.track 7 watching).run
          (Device.replaying (.ok "") fun index => (interrupted index).withoutOutage) 0) ∧
        run.Alike (((rebooting.tolerating 4).track 7 watching).run
          (Device.replaying (.ok "") interrupted) 0)) := by
  have htolerant : rebooting.tolerance.isSome = true := rfl
  obtain ⟨hpending, hcount⟩ := outage_is_pending (Device.replaying (.ok "") interrupted)
    htolerant watching 7 0
  rw [Device.withoutOutages_replaying] at hpending
  exact ⟨htolerant, by cbv, by cbv, hpending, hcount 4⟩

end Wait
end DesiredState
