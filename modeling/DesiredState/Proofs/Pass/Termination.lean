import DesiredState.Proofs.Pass.Confinement

/-!
# Passes that end

Against the offline device nothing is in the way of a pass but its waits.  A job
is found completed whenever it is polled, so a wait for it is over once it has
been confirmed often enough.  Only the wait for a reload goes by what is stored:
by the status of the configuration daemon, which no pass changes.  So every poll
finds the same, and where the first one does not end such a wait for good, none
will.

* `Run.EndsWithin` — a run has a result, after so many requests at most;
* `Run.Outlasts` — a run has no result after so many requests, or more;
* `Shelf.Settles` — a poll finds its job ended, and so will all later ones;
* `Wait.endsWithin_follow`, `Wait.outlasts_follow` — a wait by what its polls find;
* `Pass.Unhindered` — nothing keeps a pass waiting, and no request of the pass
  changes that;
* `Unhindered.endsWithin_reconcile` — such a pass ends.

A pass that is kept waiting does not end where any of its stages does not; the
last lemmas say so for follow-ups and for what follows a request.
-/

namespace DesiredState

open Device

/-! ## Runs that end, and runs that do not -/

namespace Run

variable {σ α : Type}

/-- A run has a result, after so many requests at most. -/
structure EndsWithin (run : Run σ α) (count : Nat) : Prop where
  result : ∃ result, run.result = some result
  requests : run.requests.length ≤ count

/-- A run has no result after so many requests, or more. -/
structure Outlasts (run : Run σ α) (count : Nat) : Prop where
  result : run.result = none
  requests : count ≤ run.requests.length

theorem EndsWithin.mono {run : Run σ α} {count more : Nat} (h : run.EndsWithin count)
    (hcount : count ≤ more) : run.EndsWithin more :=
  ⟨h.result, Nat.le_trans h.requests hcount⟩

end Run

namespace Conversation

variable {σ α β : Type} {device : Device σ} {state : σ} {count more : Nat}

theorem endsWithin_done (result : α) :
    ((done result).run device state).EndsWithin 0 :=
  ⟨⟨result, rfl⟩, Nat.le_refl 0⟩

theorem endsWithin_ask {request : Request} {next : request.Reply → Conversation α}
    (h : ((next (device.answer request state).1).run device
      (device.answer request state).2).EndsWithin count) :
    ((ask request next).run device state).EndsWithin (count + 1) :=
  ⟨h.result, Nat.succ_le_succ h.requests⟩

theorem outlasts_ask {request : Request} {next : request.Reply → Conversation α}
    (h : ((next (device.answer request state).1).run device
      (device.answer request state).2).Outlasts count) :
    ((ask request next).run device state).Outlasts (count + 1) :=
  ⟨h.result, Nat.succ_le_succ h.requests⟩

theorem endsWithin_sleep {duration : Nat} {next : Conversation α}
    (h : (next.run device state).EndsWithin count) :
    ((sleep duration next).run device state).EndsWithin count :=
  ⟨h.result, h.requests⟩

theorem outlasts_sleep {duration : Nat} {next : Conversation α}
    (h : (next.run device state).Outlasts count) :
    ((sleep duration next).run device state).Outlasts count :=
  ⟨h.result, h.requests⟩

theorem endsWithin_notifyAll (notices : List Notice) {next : Conversation α}
    (h : (next.run device state).EndsWithin count) :
    ((notifyAll notices next).run device state).EndsWithin count := by
  induction notices with
  | nil => exact h
  | cons notice rest ih => exact ⟨ih.result, ih.requests⟩

theorem result_bind {talk : Conversation α} (next : α → Conversation β) {value : α}
    (h : (talk.run device state).result = some value) :
    ((talk.bind next).run device state).result =
      ((next value).run device (talk.run device state).state).result := by
  have hends := ends_bind device talk next state
  simp only [Run.ends, h] at hends
  exact (Prod.mk.inj hends).1

theorem requests_bind {talk : Conversation α} (next : α → Conversation β) {value : α}
    (h : (talk.run device state).result = some value) :
    ((talk.bind next).run device state).requests =
      (talk.run device state).requests ++
        ((next value).run device (talk.run device state).state).requests := by
  rw [Run.requests, events_run_bind next h, List.filterMap_append]
  rfl

/-- Two talks in a row end if the first one does, and then the second one. -/
theorem endsWithin_bind {talk : Conversation α} {next : α → Conversation β}
    (h : (talk.run device state).EndsWithin count)
    (hnext : ∀ value,
      ((next value).run device (talk.run device state).state).EndsWithin more) :
    ((talk.bind next).run device state).EndsWithin (count + more) := by
  obtain ⟨⟨value, hvalue⟩, hrequests⟩ := h
  obtain ⟨⟨result, hresult⟩, hlater⟩ := hnext value
  refine ⟨⟨result, ?_⟩, ?_⟩
  · rw [result_bind next hvalue, hresult]
  · rw [requests_bind next hvalue, List.length_append]
    exact Nat.add_le_add hrequests hlater

/-- Two talks in a row do not end where the first one does not. -/
theorem outlasts_bind_of_first {talk : Conversation α} (next : α → Conversation β)
    (h : (talk.run device state).Outlasts count) :
    ((talk.bind next).run device state).Outlasts count := by
  induction talk generalizing state count with
  | done result => cases h.result
  | ask request reply ih =>
      obtain ⟨hresult, hrequests⟩ := h
      have hrest := ih (device.answer request state).1 ⟨hresult, Nat.le_refl _⟩
      exact ⟨hrest.result, Nat.le_trans hrequests (Nat.succ_le_succ hrest.requests)⟩
  | sleep duration rest ih =>
      have hrest := ih ⟨h.result, h.requests⟩
      exact ⟨hrest.result, hrest.requests⟩
  | notify notice rest ih =>
      have hrest := ih ⟨h.result, h.requests⟩
      exact ⟨hrest.result, hrest.requests⟩
  | brokenOff => exact ⟨rfl, h.requests⟩

/-- Two talks in a row do not end where the second one does not. -/
theorem outlasts_bind_of_second {talk : Conversation α} {next : α → Conversation β} {value : α}
    (hvalue : (talk.run device state).result = some value)
    (h : ((next value).run device (talk.run device state).state).Outlasts count) :
    ((talk.bind next).run device state).Outlasts count := by
  refine ⟨?_, ?_⟩
  · rw [result_bind next hvalue, h.result]
  · rw [requests_bind next hvalue, List.length_append]
    exact Nat.le_trans h.requests (Nat.le_add_left _ _)

end Conversation

open Conversation

/-! ## The status of a reload -/

namespace Device
namespace Shelf

variable {shelf : Shelf} {job : Job} {id : String}

/-- How far a reload has come, by the stored status of the configuration daemon; a reload
that shows no status is completed. -/
def reload (snapshot : Snapshot) : Progress :=
  match (snapshot.get? daemonStateKey).bind fun state => state.text? "output" with
  | some output => Catalog.Archive.reloadProgress output
  | none => .completed

theorem progress_observe_configReload (snapshot : Snapshot) (id : String) :
    (observe snapshot .configReload id).1.progress = reload snapshot := by
  unfold observe reload
  dsimp only
  cases (snapshot.get? daemonStateKey).bind fun state => state.text? "output" with
  | some output => rfl
  | none => rfl

/-- The status is shown by the other resources of any other key. -/
theorem reload_eq_of_others {first second : Snapshot} {key : String}
    (haside : daemonStateKey ≠ key) (h : first.others key = second.others key) :
    reload first = reload second := by
  unfold reload
  rw [← first.lookup_others haside, h, second.lookup_others haside]

/-- A poll for a job finds it ended. -/
structure Settles (shelf : Shelf) (job : Job) (id : String) : Prop where
  /-- The id can be polled. -/
  known : shelf.knows id = true
  /-- The job is not found pending. -/
  ended : (observe shelf.snapshot job id).1.progress.isTerminal = true

theorem answer_poll (hknown : shelf.knows id = true) (job : Job) :
    answer (.poll job id) shelf =
      (.ok (observe shelf.snapshot job id).1,
        { shelf with snapshot := (observe shelf.snapshot job id).2 }) := by
  simp only [answer, hknown, if_true]

/-- What polls find ended they find ended again. -/
theorem Settles.after_poll (h : shelf.Settles job id) :
    (answer (.poll job id) shelf).2.Settles job id := by
  rw [answer_poll h.known]
  refine ⟨h.known, ?_⟩
  by_cases hjob : job = .configReload
  · subst hjob
    rw [snapshot_observe (by decide)]
    exact h.ended
  · rw [progress_observe hjob]
    rfl

/-- A job that can be polled is found ended, if it is no reload that is still pending. -/
theorem settles_of_reload (hknown : shelf.knows id = true)
    (hended : job = .configReload → (reload shelf.snapshot).isTerminal = true) :
    shelf.Settles job id := by
  refine ⟨hknown, ?_⟩
  by_cases hjob : job = .configReload
  · have hreload := hended hjob
    subst hjob
    rwa [progress_observe_configReload]
  · rw [progress_observe hjob]
    rfl

end Shelf
end Device

/-! ## Waits -/

namespace Wait

variable {wait : Wait} {shelf : Shelf} {label : String} {job : Job} {id : String}
  {patience : Nat} {seen : Seen} {operation : Operation}

/-- A poll that finds its job ended settles the wait, or is one of the successes that are
needed before. -/
theorem absorb_of_isTerminal (wait : Wait) (seen : Seen) {observation : Observation}
    (h : observation.progress.isTerminal = true) :
    (∃ notices result, wait.absorb seen (.ok observation) = .settled notices result) ∨
      (seen.streak + 1).toNat < wait.confirmations ∧
        ∃ next : Seen, next.streak = seen.streak + 1 ∧
          wait.absorb seen (.ok observation) = .goOn [] next := by
  obtain ⟨progress, value⟩ := observation
  cases progress with
  | pending => cases h
  | failed detail => exact Or.inl ⟨_, _, rfl⟩
  | completed =>
      simp only [absorb, absorbObservation]
      split
      · exact Or.inl ⟨_, _, rfl⟩
      · rename_i hfew
        exact Or.inr ⟨Nat.lt_of_not_le hfew, _, rfl, rfl⟩

theorem endsWithin_giveUp : ((wait.giveUp label seen).run offline shelf).EndsWithin 0 := by
  unfold giveUp
  split
  · exact endsWithin_notifyAll [.wentOnWithout] (endsWithin_done _)
  · exact endsWithin_notifyAll [.ranOut] (endsWithin_done _)

/-- A wait that finds its job ended is over when it has been confirmed, if the successes
can be counted. -/
theorem endsWithin_follow (label : String) (h : shelf.Settles job id)
    (hcountable : wait.confirmations < UInt32.size)
    (hfew : seen.streak.toNat < max 1 wait.confirmations)
    (hpatience : max 1 (wait.confirmations - seen.streak.toNat) ≤ patience) :
    ((wait.follow label job id patience seen).run offline shelf).EndsWithin
      (max 1 (wait.confirmations - seen.streak.toNat)) := by
  induction patience generalizing shelf seen with
  | zero => omega
  | succ left ih =>
      rw [follow]
      split
      · exact endsWithin_giveUp.mono (Nat.zero_le _)
      · have hlater := h.after_poll
        have hreply := Shelf.answer_poll h.known job
        rcases absorb_of_isTerminal wait seen h.ended with
          ⟨notices, result, hsettled⟩ | ⟨hmissing, next, hstreak, hgoOn⟩
        · have hcount : 0 + 1 ≤ max 1 (wait.confirmations - seen.streak.toNat) := by omega
          refine (endsWithin_sleep (endsWithin_ask ?_)).mono hcount
          simp only [offline, hreply, hsettled]
          exact endsWithin_notifyAll notices (endsWithin_done result)
        · -- one success less is needed now
          have hnext : next.streak.toNat = seen.streak.toNat + 1 := by
            rw [hstreak, UInt32.toNat_add, UInt32.toNat_one]
            exact Nat.mod_eq_of_lt (by rw [UInt32.size] at hcountable; omega)
          rw [← hstreak] at hmissing
          have hcount : max 1 (wait.confirmations - next.streak.toNat) + 1 ≤
              max 1 (wait.confirmations - seen.streak.toNat) := by omega
          refine (endsWithin_sleep (endsWithin_ask ?_)).mono hcount
          rw [hreply] at hlater
          simp only [offline, hreply, hgoOn]
          exact ih hlater (by omega) (by omega)

theorem endsWithin_await (h : shelf.Settles operation.job id)
    (hcountable : wait.confirmations < UInt32.size)
    (hpatience : max 1 wait.confirmations ≤ patience) :
    ((wait.await operation patience id).run offline shelf).EndsWithin
      (max 1 wait.confirmations) := by
  have hfollow : ((wait.follow operation.label operation.job id patience {}).run
      offline shelf).EndsWithin (max 1 wait.confirmations) :=
    endsWithin_follow operation.label h hcountable
      (Nat.lt_of_lt_of_le Nat.zero_lt_one (Nat.le_max_left 1 _)) hpatience
  unfold await
  dsimp only
  split
  · exact hfollow
  · exact endsWithin_sleep hfollow

/-- An operation ends if it is no wait for a reload that is still pending. -/
theorem endsWithin_track
    (hended : operation.job = .configReload → (Shelf.reload shelf.snapshot).isTerminal = true)
    (hcountable : wait.confirmations < UInt32.size)
    (hpatience : max 1 wait.confirmations ≤ patience) :
    ((wait.track patience operation).run offline shelf).EndsWithin
      ((if operation.mode = .submit then 1 else 0) + max 1 wait.confirmations) := by
  unfold track
  cases operation.mode with
  | watch =>
      rw [if_neg nofun, Nat.zero_add]
      exact endsWithin_await (Shelf.settles_of_reload (shelf.knows_path _) hended) hcountable
        hpatience
  | submit =>
      rw [if_pos rfl, Nat.add_comm]
      refine endsWithin_ask
        (endsWithin_await (Shelf.settles_of_reload ?_ ?_) hcountable hpatience)
      · exact shelf.knows_nextId _ _ _
      · intro hjob
        -- the submission of a reload has no effect
        have hkept : Shelf.applyJob shelf.snapshot operation.job operation.key.display
            operation.payload = shelf.snapshot := by
          rw [hjob]
          rfl
        change (Shelf.reload (Shelf.applyJob _ _ _ _)).isTerminal = true
        rw [hkept]
        exact hended hjob

theorem absorb_of_pending (wait : Wait) (seen : Seen) {observation : Observation}
    (h : observation.progress = .pending) :
    ∃ next, wait.absorb seen (.ok observation) = .goOn [] next := by
  simp only [absorb, absorbObservation, h]
  exact ⟨_, rfl⟩

/-- A wait for a reload that stays pending is followed for as long as the patience lasts,
if it has no budget. -/
theorem outlasts_follow (hunbounded : wait.budget = .unbounded)
    (hknown : shelf.knows id = true) (hpending : Shelf.reload shelf.snapshot = .pending) :
    ((wait.follow label .configReload id patience seen).run offline shelf).Outlasts
      patience := by
  have hopen : ∀ polls slept, wait.isOver polls slept = false := by
    intro polls slept
    rw [isOver, hunbounded]
  have hreply := Shelf.answer_poll hknown .configReload
  -- the poll leaves the status as it is, so the next one finds the same
  rw [Shelf.snapshot_observe (by decide)] at hreply
  induction patience generalizing seen with
  | zero =>
      rw [follow.eq_def, hopen]
      exact ⟨rfl, Nat.le_refl 0⟩
  | succ left ih =>
      obtain ⟨next, hgoOn⟩ := wait.absorb_of_pending seen
        ((Shelf.progress_observe_configReload shelf.snapshot id).trans hpending)
      rw [follow, hopen]
      refine outlasts_sleep (outlasts_ask ?_)
      simp only [offline, hreply, hgoOn]
      exact ih

theorem outlasts_track (hunbounded : wait.budget = .unbounded)
    (hwatched : operation.mode = .watch) (hreload : operation.job = .configReload)
    (hpending : Shelf.reload shelf.snapshot = .pending) :
    ((wait.track patience operation).run offline shelf).Outlasts patience := by
  have hfollow : ((wait.follow operation.label operation.job operation.key.path patience {}).run
      offline shelf).Outlasts patience := by
    rw [hreload]
    exact outlasts_follow hunbounded (shelf.knows_path operation.key) hpending
  unfold track
  rw [hwatched]
  dsimp only [await]
  split
  · exact hfollow
  · exact outlasts_sleep hfollow

end Wait

/-! ## Follow-ups -/

/-- The requests that a follow-up makes at most where its job is found ended: one to submit
it, if it is not only watched, and one for each success that is asked for. -/
def FollowUp.requests (followUp : FollowUp) : Nat :=
  (if followUp.mode = .submit then 1 else 0) + max 1 followUp.wait.confirmations

/-- The requests that some follow-ups make at most, one after the other. -/
def FollowUp.requestsOf (followUps : List FollowUp) : Nat :=
  followUps.foldr (fun followUp later => followUp.requests + later) 0

namespace Pass

variable {pass : Pass} {shelf after : Shelf} {want params : Attributes} {count : Nat}
  {satisfied wrote : Bool} {report : Report}

/-- Nothing keeps a pass waiting: the only jobs that it may find pending are reloads, and
the stored status, which is none of its own, says that they have ended. -/
structure Unhindered (pass : Pass) (shelf : Shelf) : Prop where
  /-- What the follow-ups ask for is about the resource. -/
  confined : ∀ followUp ∈ pass.kind.followUpsOf pass.target, followUp.Confined pass.key.kind
  /-- There is patience for every success that is asked for. -/
  patient : ∀ followUp ∈ pass.kind.followUpsOf pass.target,
    max 1 followUp.wait.confirmations ≤ pass.patience
  /-- All these successes can be counted. -/
  countable : ∀ followUp ∈ pass.kind.followUpsOf pass.target,
    followUp.wait.confirmations < UInt32.size
  /-- The resource is not the status of the configuration daemon. -/
  aside : daemonStateKey ≠ pass.key.display
  /-- A reload that is waited for has ended.  A dry run waits for none. -/
  ended : pass.checkOnly = false → ∀ followUp ∈ pass.kind.followUpsOf pass.target,
    followUp.job = .configReload → (Shelf.reload shelf.snapshot).isTerminal = true

/-- What changes nothing but the resource of a pass hinders it as little. -/
theorem Unhindered.of_others (h : pass.Unhindered shelf)
    (hothers : after.snapshot.others pass.key.display = shelf.snapshot.others pass.key.display) :
    pass.Unhindered after where
  confined := h.confined
  patient := h.patient
  countable := h.countable
  aside := h.aside
  ended := by
    rw [Shelf.reload_eq_of_others h.aside hothers]
    exact h.ended

/-- A follow-up leaves the other resources as they are. -/
theorem others_track {followUp : FollowUp} (hconfined : followUp.Confined pass.key.kind) :
    ((followUp.wait.track pass.patience (pass.operationOf want followUp)).run
        offline shelf).state.snapshot.others pass.key.display =
      shelf.snapshot.others pass.key.display := by
  obtain ⟨polls, htracks, -⟩ := Wait.branch_track (branch_run offline
    (followUp.wait.track pass.patience (pass.operationOf want followUp)) shelf)
  rw [state_run, Run.requests_eq]
  exact Shelf.others_after (List.forall_mem_map.mpr (confined_of_tracks hconfined htracks)) shelf

/-- The requests that the follow-ups of a pass make at most. -/
def followUpRequests (pass : Pass) : Nat :=
  FollowUp.requestsOf (pass.kind.followUpsOf pass.target)

theorem Unhindered.endsWithin_runFollowUps (h : pass.Unhindered shelf)
    (hlive : pass.checkOnly = false) {followUps : List FollowUp}
    (hdeclared : ∀ followUp ∈ followUps, followUp ∈ pass.kind.followUpsOf pass.target) :
    ((pass.runFollowUps want satisfied wrote followUps report).run offline shelf).EndsWithin
      (FollowUp.requestsOf followUps) := by
  induction followUps generalizing shelf report with
  | nil => exact endsWithin_done _
  | cons followUp rest ih =>
      obtain ⟨hfirst, hrest⟩ := List.forall_mem_cons.mp hdeclared
      rw [FollowUp.requestsOf, List.foldr_cons, runFollowUps]
      split
      · refine endsWithin_bind
          (Wait.endsWithin_track (h.ended hlive followUp hfirst) (h.countable followUp hfirst)
            (h.patient followUp hfirst))
          fun ended => ?_
        cases ended with
        | error fault => exact (endsWithin_done _).mono (Nat.zero_le _)
        | ok outcome => exact ih (h.of_others (others_track (h.confined followUp hfirst))) hrest
      · exact (ih h hrest).mono (Nat.le_add_left _ _)

/-! ## Stages -/

theorem endsWithin_obtain {α : Type} {computed : Except Fault α} {next : α → Talk}
    (hnext : ∀ value, ((next value).run offline shelf).EndsWithin count) :
    ((obtain computed next).run offline shelf).EndsWithin count := by
  cases computed with
  | ok value => exact hnext value
  | error fault => exact (endsWithin_done _).mono (Nat.zero_le _)

namespace Unhindered

variable (h : pass.Unhindered shelf)

include h

theorem endsWithin_require {changed : Bool} {request : Request} {next : request.Answer → Talk}
    (hrequest : request.Confined pass.key)
    (hnext : ∀ answer after, pass.Unhindered after →
      ((next answer).run offline after).EndsWithin count) :
    ((require changed request next).run offline shelf).EndsWithin (count + 1) := by
  have hafter := h.of_others (Shelf.others_answer hrequest shelf)
  refine endsWithin_ask ?_
  cases (offline.answer request shelf).1 with
  | ok answer => exact hnext answer _ hafter
  | error failure => exact (endsWithin_done _).mono (Nat.zero_le _)

theorem endsWithin_followUp (hlive : pass.checkOnly = false) (observed : Condition)
    (wrote : Bool) (report : Report) :
    ((pass.followUp want observed wrote report).run offline shelf).EndsWithin
      pass.followUpRequests :=
  h.endsWithin_runFollowUps hlive fun _ hdeclared => hdeclared

theorem endsWithin_remove : (pass.remove.run offline shelf).EndsWithin 2 := by
  unfold remove
  split
  · exact (endsWithin_done _).mono (Nat.zero_le _)
  · refine h.endsWithin_require rfl fun _ after hafter => ?_
    refine hafter.endsWithin_require rfl fun stillThere gone _ => ?_
    cases stillThere with
    | true => exact endsWithin_done _
    | false => exact endsWithin_done _

theorem endsWithin_create :
    ((pass.create want).run offline shelf).EndsWithin (pass.followUpRequests + 2) := by
  refine endsWithin_obtain fun creation => ?_
  dsimp only
  split
  · exact (endsWithin_done _).mono (Nat.zero_le _)
  · rename_i hcheck
    have hlive := Bool.eq_false_iff.mpr hcheck
    refine h.endsWithin_require rfl fun _ after hafter => ?_
    cases pass.flagsAfterCreation with
    | some flags =>
        exact hafter.endsWithin_require rfl fun _ flagged hflagged =>
          hflagged.endsWithin_followUp hlive _ _ _
    | none => exact (hafter.endsWithin_followUp hlive _ _ _).mono (Nat.le_succ _)

theorem endsWithin_converge (held changes : Attributes) :
    ((pass.converge want held changes).run offline shelf).EndsWithin
      (pass.followUpRequests + 1) := by
  unfold converge
  dsimp only
  split
  · exact (endsWithin_done _).mono (Nat.zero_le _)
  · split
    · exact (endsWithin_done _).mono (Nat.zero_le _)
    · rename_i hcheck
      have hlive := Bool.eq_false_iff.mpr hcheck
      split
      · exact h.endsWithin_require rfl fun _ after hafter =>
          hafter.endsWithin_followUp hlive _ _ _
      · exact (h.endsWithin_followUp hlive _ _ _).mono (Nat.le_succ _)

theorem endsWithin_proceed (found : Bool) :
    ((pass.proceed want found).run offline shelf).EndsWithin (pass.followUpRequests + 2) := by
  unfold proceed
  split
  · split
    · exact h.endsWithin_remove.mono (Nat.le_add_left _ _)
    · exact (endsWithin_done _).mono (Nat.zero_le _)
  · split
    · exact h.endsWithin_require rfl fun raw after hafter =>
        endsWithin_obtain fun changes => hafter.endsWithin_converge _ changes
    · split
      · exact (endsWithin_done _).mono (Nat.zero_le _)
      · exact h.endsWithin_create

/-- A pass that nothing keeps waiting ends, after three requests of its own and those of its
follow-ups at most. -/
theorem endsWithin_reconcile (params : Attributes) :
    ((pass.reconcile params).run offline shelf).EndsWithin (pass.followUpRequests + 3) := by
  refine endsWithin_obtain fun want => ?_
  split
  · exact (h.endsWithin_proceed true).mono (Nat.le_succ _)
  · exact h.endsWithin_require rfl fun found after hafter => hafter.endsWithin_proceed found

end Unhindered

/-! ## Passes that do not end -/

/-- Follow-ups do not end where the first one does not. -/
theorem outlasts_runFollowUps_of_first {followUp : FollowUp} (rest : List FollowUp)
    (hdue : followUp.isDue satisfied wrote = true)
    (h : ((followUp.wait.track pass.patience (pass.operationOf want followUp)).run
      offline shelf).Outlasts count) :
    ((pass.runFollowUps want satisfied wrote (followUp :: rest) report).run
      offline shelf).Outlasts count := by
  rw [runFollowUps, if_pos hdue]
  exact outlasts_bind_of_first _ h

/-- Follow-ups do not end where those after the first one do not. -/
theorem outlasts_runFollowUps_of_later {followUp : FollowUp} {rest : List FollowUp}
    {outcome : Outcome} (hdue : followUp.isDue satisfied wrote = true)
    (hends : ((followUp.wait.track pass.patience (pass.operationOf want followUp)).run
      offline shelf).ends = (some (.ok outcome), after))
    (h : ∀ report, ((pass.runFollowUps want satisfied wrote rest report).run
      offline after).Outlasts count) :
    ((pass.runFollowUps want satisfied wrote (followUp :: rest) report).run
      offline shelf).Outlasts count := by
  obtain ⟨hresult, rfl⟩ := Prod.mk.inj hends
  rw [runFollowUps, if_pos hdue]
  exact outlasts_bind_of_second hresult (h _)

/-- A pass does not end where what follows an answered request does not. -/
theorem outlasts_require {changed : Bool} {request : Request} {next : request.Answer → Talk}
    {answer : request.Answer} (hreply : Shelf.answer request shelf = (.ok answer, after))
    (h : ((next answer).run offline after).Outlasts count) :
    ((require changed request next).run offline shelf).Outlasts (count + 1) := by
  refine outlasts_ask ?_
  simp only [offline, hreply]
  exact h

end Pass
end DesiredState
