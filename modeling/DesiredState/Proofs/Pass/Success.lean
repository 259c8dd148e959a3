import DesiredState.Proofs.Conversation.Midway
import DesiredState.Proofs.Pass.Setback

/-!
# What a success says

A pass that succeeds, and is no dry run, reports a change exactly when it has
created, updated or deleted something, or has followed up.  Where it reports no
change, it has only asked whether the resource is there and what it has.

What is reported is decided before anything is written, by the change set, the
flags and whether a follow-up is due.  Which follow-ups are run is decided
again afterwards, one by one.  So a talk is said to be `Truthful` when these
agree for it, whatever the device does; this is shown for each stage of a pass,
from the last one to the first.

A follow-up may be run without a request, where its wait is over before the
first poll.  That it was run is therefore said of the events of the pass, and
not only of its calls.
-/

namespace DesiredState

/-- Whether a request asks to create, update or delete a resource. -/
def Request.isWrite : Request → Bool
  | .create _ _ | .update _ _ | .delete _ => true
  | .lookUp _ | .read _ | .submit _ _ _ | .poll _ _ => false

/-- Whether a call was to create, update or delete a resource, and was answered
with success. -/
def Call.alters (call : Call) : Bool :=
  call.request.isWrite && call.failure?.isNone

/-- Whether an event is a look at a resource. -/
def Event.isLook : Event → Bool
  | .asked request _ => request.isLook
  | .slept _ | .notified _ => false

/-- To write is not to look. -/
theorem Request.isLook_of_isWrite {request : Request} (h : request.isWrite = true) :
    request.isLook = false := by
  cases request with
  | create _ _ | update _ _ | delete _ => rfl
  | lookUp _ | read _ | submit _ _ _ | poll _ _ => cases h

/-- A run that has only looked makes no other call. -/
theorem Run.isLook_of_mem_calls {σ α : Type} {run : Run σ α}
    (h : ∀ event ∈ run.events, event.isLook = true) :
    ∀ call ∈ run.calls, call.request.isLook = true := by
  intro call hcall
  obtain ⟨event, hevent, heq⟩ := List.mem_filterMap.mp hcall
  cases event with
  | asked request reply =>
      obtain rfl := Option.some.inj heq
      exact h _ hevent
  | slept duration => cases heq
  | notified notice => cases heq

namespace Wait

variable {σ : Type} {wait : Wait} {operation : Operation} {patience : Nat}
  {device : Device σ} {state : σ}

theorem events_follow_ne_nil {label : String} {job : Job} {id : String}
    (h : ((wait.follow label job id patience {}).run device state).result.isSome = true) :
    ((wait.follow label job id patience {}).run device state).events ≠ [] := by
  unfold follow at h ⊢
  split at h
  · -- giving up is always told
    rename_i hover
    rw [if_pos hover]
    unfold giveUp
    split
    · exact List.cons_ne_nil _ _
    · exact List.cons_ne_nil _ _
  · rename_i hopen
    rw [if_neg hopen]
    cases patience with
    | zero => cases h
    | succ left => exact List.cons_ne_nil _ _

/-- A wait that comes to a result leaves a trace, even where it makes no poll. -/
theorem events_track_ne_nil
    (h : ((wait.track patience operation).run device state).result.isSome = true) :
    ((wait.track patience operation).run device state).events ≠ [] := by
  unfold track at h ⊢
  cases hmode : operation.mode with
  | submit => exact List.cons_ne_nil _ _
  | watch =>
      rw [hmode] at h
      dsimp only [await] at h ⊢
      split at h
      · rename_i hprompt
        rw [if_pos hprompt]
        exact events_follow_ne_nil h
      · rename_i hdelayed
        rw [if_neg hdelayed]
        exact List.cons_ne_nil _ _

end Wait

namespace Pass

open Conversation

variable {σ : Type} {device : Device σ} {state : σ} {pass : Pass}
  {params want : Attributes} {report : Report} {talk : Talk}

/-- In the course of some events that begin in a state of a device, a follow-up
of the target is run up to its result. -/
def FollowsUp (pass : Pass) (want : Attributes) (device : Device σ) (state : σ)
    (events : List Event) : Prop :=
  ∃ followUp ∈ pass.kind.followUpsOf pass.target, ∃ earlier later,
    let followed := (pass.errandTalk want followUp).run device
      (device.after (earlier.filterMap Event.request?) state)
    followed.result.isSome = true ∧ events = earlier ++ followed.events ++ later

/-- A follow-up that is run later on is run. -/
theorem FollowsUp.of_asked {request : Request} {reply : request.Reply} {events : List Event}
    (h : pass.FollowsUp want device (device.answer request state).2 events) :
    pass.FollowsUp want device state (.asked request reply :: events) := by
  obtain ⟨followUp, hdeclared, earlier, later, hresult, rfl⟩ := h
  exact ⟨followUp, hdeclared, .asked request reply :: earlier, later, hresult, rfl⟩

/-- To follow up is more than to look. -/
theorem FollowsUp.exists_not_look {events : List Event}
    (h : pass.FollowsUp want device state events) : ∃ event ∈ events, event.isLook = false := by
  obtain ⟨followUp, -, earlier, later, hresult, rfl⟩ := h
  obtain ⟨event, hevent⟩ := List.exists_mem_of_ne_nil _ (Wait.events_track_ne_nil hresult)
  refine ⟨event, by simp [errandTalk, hevent], ?_⟩
  cases event with
  | asked request reply =>
      -- all calls of a follow-up are about its job
      have hjob : request.isAboutJob = true :=
        isAboutJob_of_errandTalk (branch_run device (pass.errandTalk want followUp) _)
          ⟨request, reply⟩ (List.mem_filterMap.mpr ⟨_, hevent, rfl⟩)
      refine Bool.eq_false_iff.mpr fun hlook => ?_
      rw [Request.isAboutJob_of_isLook hlook] at hjob
      cases hjob
  | slept duration => rfl
  | notified notice => rfl

/-- A pass does not succeed after a request that failed: it goes on with an answer. -/
theorem run_require_of_ok {changed : Bool} {request : Request} {next : request.Answer → Talk}
    (hok : ((require changed request next).run device state).result = some (.ok report)) :
    ∃ answer, (require changed request next).run device state =
      ((next answer).run device (device.answer request state).2).after
        (.asked request (.ok answer)) := by
  rcases hanswer : device.answer request state with ⟨reply, after⟩
  cases reply with
  | ok answer =>
      refine ⟨answer, ?_⟩
      simp only [require, Conversation.run, hanswer]
  | error failure =>
      simp only [require, Conversation.run, hanswer] at hok
      cases hok

/-- A request that is answered is gone on from with the answer. -/
theorem result_require {changed : Bool} {request : Request} {next : request.Answer → Talk}
    {answer : request.Answer} {after : σ}
    (hanswer : device.answer request state = (.ok answer, after)) :
    ((require changed request next).run device state).result =
      ((next answer).run device after).result := by
  simp only [require, Conversation.run, hanswer, Run.result_after]

/-! ## Talks that always report a change -/

/-- Whenever a talk succeeds, it reports a change. -/
def Changing (device : Device σ) (talk : Talk) : Prop :=
  ∀ state report, (talk.run device state).result = some (.ok report) → report.changed = true

theorem changing_succeed (h : report.changed = true) : Changing device (succeed report) := by
  intro state other hok
  obtain rfl := Except.ok.inj (Option.some.inj hok)
  exact h

theorem changing_fail {changed : Bool} {fault : Fault} :
    Changing device (fail changed fault) := by
  intro state other hok
  cases hok

theorem changing_require {changed : Bool} {request : Request} {next : request.Answer → Talk}
    (h : ∀ answer, Changing device (next answer)) :
    Changing device (require changed request next) := by
  intro state report hok
  obtain ⟨answer, hrun⟩ := run_require_of_ok hok
  rw [hrun] at hok
  exact h answer _ report hok

theorem changing_runFollowUps {satisfied wrote : Bool} {followUps : List FollowUp}
    (h : report.changed = true) :
    Changing device (pass.runFollowUps want satisfied wrote followUps report) := by
  induction followUps generalizing report with
  | nil => exact changing_succeed h
  | cons followUp rest ih =>
      unfold runFollowUps
      split
      · intro state other hok
        obtain ⟨ending, -, hrest⟩ := result_run_bind hok
        cases ending with
        | error fault => cases hrest
        | ok outcome => exact ih rfl _ _ hrest
      · exact ih h

/-! ## Truthful talks -/

/-- Whenever a talk succeeds, its report is true of what has happened: without a
change it has only looked; with one it has altered something, or followed
up. -/
structure Truthful (pass : Pass) (want : Attributes) (device : Device σ) (talk : Talk) :
    Prop where
  looked : ∀ state report, (talk.run device state).result = some (.ok report) →
    report.changed = false → ∀ event ∈ (talk.run device state).events, event.isLook = true
  acted : ∀ state report, (talk.run device state).result = some (.ok report) →
    report.changed = true → (∃ call ∈ (talk.run device state).calls, call.alters = true) ∨
      pass.FollowsUp want device state (talk.run device state).events

theorem truthful_fail {changed : Bool} {fault : Fault} :
    pass.Truthful want device (fail changed fault) where
  looked := nofun
  acted := nofun

theorem truthful_succeed (h : report.changed = false) :
    pass.Truthful want device (succeed report) where
  looked := by
    intro state other _ _
    exact List.forall_mem_nil _
  acted := by
    intro state other hok hchanged
    obtain rfl := Except.ok.inj (Option.some.inj hok)
    rw [h] at hchanged
    cases hchanged

/-- A look beforehand is no change. -/
theorem truthful_of_look {changed : Bool} {request : Request} {next : request.Answer → Talk}
    (hlook : request.isLook = true) (h : ∀ answer, pass.Truthful want device (next answer)) :
    pass.Truthful want device (require changed request next) := by
  constructor
  · intro state report hok hchanged
    obtain ⟨answer, hrun⟩ := run_require_of_ok hok
    rw [hrun] at hok ⊢
    exact List.forall_mem_cons.mpr ⟨hlook, (h answer).looked _ report hok hchanged⟩
  · intro state report hok hchanged
    obtain ⟨answer, hrun⟩ := run_require_of_ok hok
    rw [hrun] at hok ⊢
    rcases (h answer).acted _ report hok hchanged with ⟨call, hcall, halters⟩ | hfollowsUp
    · exact Or.inl ⟨call, List.mem_cons_of_mem _ hcall, halters⟩
    · exact Or.inr hfollowsUp.of_asked

/-- After a write that was answered, a change is always reported. -/
theorem truthful_of_write {changed : Bool} {request : Request} {next : request.Answer → Talk}
    (hwrite : request.isWrite = true) (h : ∀ answer, Changing device (next answer)) :
    pass.Truthful want device (require changed request next) := by
  constructor
  · intro state report hok hchanged
    rw [changing_require h state report hok] at hchanged
    cases hchanged
  · intro state report hok _
    obtain ⟨answer, hrun⟩ := run_require_of_ok hok
    rw [hrun]
    refine Or.inl ⟨⟨request, .ok answer⟩, List.mem_cons_self, ?_⟩
    rw [Call.alters, hwrite]
    rfl

theorem truthful_obtain {α : Type} {computed : Except Fault α} {next : α → Talk}
    (h : ∀ value, computed = .ok value → pass.Truthful want device (next value)) :
    pass.Truthful want device (obtain computed next) := by
  cases computed with
  | error fault => exact truthful_fail
  | ok value => exact h value rfl

/-! ## Follow-ups -/

/-- Where one of some follow-ups is due, running them runs one. -/
theorem followsUp_of_runFollowUps {satisfied wrote : Bool} {followUps : List FollowUp}
    (hdeclared : ∀ followUp ∈ followUps, followUp ∈ pass.kind.followUpsOf pass.target)
    (hdue : ∃ followUp ∈ followUps, followUp.isDue satisfied wrote = true) {other : Report}
    (hok : ((pass.runFollowUps want satisfied wrote followUps report).run device state).result =
      some (.ok other)) :
    pass.FollowsUp want device state
      ((pass.runFollowUps want satisfied wrote followUps report).run device state).events := by
  induction followUps generalizing report with
  | nil =>
      obtain ⟨_, hmem, -⟩ := hdue
      cases hmem
  | cons followUp rest ih =>
      obtain ⟨hhead, hrest⟩ := List.forall_mem_cons.mp hdeclared
      unfold runFollowUps at hok ⊢
      split at hok
      · -- the first one that is due is run at once
        rename_i hnow
        rw [if_pos hnow]
        obtain ⟨ending, hending, -⟩ := result_run_bind hok
        refine ⟨followUp, hhead, [], _, ?_, events_run_bind _ hending⟩
        exact Option.isSome_iff_exists.mpr ⟨ending, hending⟩
      · rename_i hidle
        rw [if_neg hidle]
        refine ih hrest ?_ hok
        obtain ⟨found, hmem, hfound⟩ := hdue
        rcases List.mem_cons.mp hmem with rfl | hlater
        · exact absurd hfound hidle
        · exact ⟨found, hlater, hfound⟩

/-- A follow-up that makes a change is one that is run. -/
theorem truthful_followUp {observed : Condition} {wrote : Bool}
    (hdue : pass.followUpsDue observed = true) (hchanged : report.changed = true) :
    pass.Truthful want device (pass.followUp want observed wrote report) := by
  have hfirst : ∃ followUp ∈ pass.kind.followUpsOf pass.target,
      followUp.isDue (pass.target.satisfiedBy observed) wrote = true := by
    obtain ⟨followUp, hmem, htriggered⟩ := List.any_eq_true.mp hdue
    obtain ⟨htrigger, hunsatisfied⟩ := Bool.and_eq_true_iff.mp htriggered
    refine ⟨followUp, hmem, ?_⟩
    rw [FollowUp.isDue, eq_of_beq htrigger]
    exact hunsatisfied
  constructor
  · intro state other hok hunchanged
    rw [changing_runFollowUps hchanged state other hok] at hunchanged
    cases hunchanged
  · intro state other hok _
    exact Or.inr (followsUp_of_runFollowUps (fun _ => id) hfirst hok)

/-! ## Stages -/

section Live

variable (hlive : pass.checkOnly = false)
include hlive

theorem truthful_remove : pass.Truthful want device pass.remove := by
  unfold remove
  rw [hlive]
  refine truthful_of_write rfl fun _ => changing_require fun stillThere => ?_
  cases stillThere with
  | true => exact changing_fail
  | false => exact changing_succeed rfl

theorem truthful_create : pass.Truthful want device (pass.create want) := by
  refine truthful_obtain fun creation _ => ?_
  rw [hlive]
  refine truthful_of_write rfl fun _ => ?_
  dsimp only
  split
  · exact changing_require fun _ => changing_runFollowUps rfl
  · exact changing_runFollowUps rfl

theorem truthful_converge {held changes : Attributes} :
    pass.Truthful want device (pass.converge want held changes) := by
  unfold converge
  dsimp only
  split
  · exact truthful_succeed rfl
  · rename_i hneeded
    rw [hlive, if_neg Bool.false_ne_true]
    split
    · exact truthful_of_write rfl fun _ => changing_runFollowUps rfl
    · -- without anything to write, a follow-up is due
      rename_i hsilent
      refine truthful_followUp ?_ rfl
      simpa [Bool.eq_false_iff.mpr hsilent] using hneeded

theorem truthful_update : pass.Truthful want device (pass.update want) :=
  truthful_of_look rfl fun _ => truthful_obtain fun _ _ => truthful_converge hlive

theorem truthful_proceed {found : Bool} :
    pass.Truthful want device (pass.proceed want found) := by
  unfold proceed
  split
  · cases found with
    | true => exact truthful_remove hlive
    | false => exact truthful_succeed rfl
  · cases found with
    | true => exact truthful_update hlive
    | false =>
        simp only [Bool.false_eq_true, if_false]
        cases pass.kind.missing with
        | some reason => exact truthful_fail
        | none => exact truthful_create hlive

end Live

/-! ## The whole pass -/

/-- A pass is truthful for what its parameters come to. -/
theorem truthful_reconcile (device : Device σ) (hlive : pass.checkOnly = false)
    (hwant : pass.kind.want pass.key.partition params pass.target = .ok want) :
    pass.Truthful want device (pass.reconcile params) := by
  refine truthful_obtain fun value hvalue => ?_
  obtain rfl := Except.ok.inj (hvalue.symm.trans hwant)
  split
  · exact truthful_proceed hlive
  · exact truthful_of_look rfl fun _ => truthful_proceed hlive

/-- Against every device, from every state, a pass that succeeds and is no dry run
reports a change exactly when one of its creations, updates and deletions was
answered with success, or a follow-up was run.  Where it reports none, all its
calls are looks. -/
theorem changed_iff_altered_or_followsUp (hlive : pass.checkOnly = false)
    (hok : ((pass.reconcile params).run device state).result = some (.ok report)) :
    (report.changed = true ↔
      (∃ call ∈ ((pass.reconcile params).run device state).calls, call.alters = true) ∨
        ∃ want, pass.kind.want pass.key.partition params pass.target = .ok want ∧
          pass.FollowsUp want device state
            ((pass.reconcile params).run device state).events) ∧
    (report.changed = false →
      ∀ call ∈ ((pass.reconcile params).run device state).calls,
        call.request.isLook = true) := by
  obtain ⟨want, hwant⟩ : ∃ want,
      pass.kind.want pass.key.partition params pass.target = .ok want := by
    rcases branch_obtain (hok ▸ branch_run device (pass.reconcile params) state) with
      ⟨fault, -, -, hfailed⟩ | ⟨want, hwant, -⟩
    · cases hfailed
    · exact ⟨want, hwant⟩
  obtain ⟨hlooked, hacted⟩ := truthful_reconcile device hlive hwant
  refine ⟨⟨fun hchanged => ?_, fun hdone => ?_⟩, fun hunchanged =>
    Run.isLook_of_mem_calls (hlooked state report hok hunchanged)⟩
  · rcases hacted state report hok hchanged with haltered | hfollowsUp
    · exact Or.inl haltered
    · exact Or.inr ⟨want, hwant, hfollowsUp⟩
  · -- whatever was done is no look, so a change was reported
    refine Decidable.of_not_not fun hsilent => ?_
    have hall := hlooked state report hok (Bool.eq_false_iff.mpr hsilent)
    rcases hdone with ⟨call, hcall, halters⟩ | ⟨other, -, hfollowsUp⟩
    · have hwrite := (Bool.and_eq_true_iff.mp halters).1
      have hlook := Run.isLook_of_mem_calls hall call hcall
      rw [Request.isLook_of_isWrite hwrite] at hlook
      cases hlook
    · obtain ⟨event, hevent, hnone⟩ := hfollowsUp.exists_not_look
      rw [hall event hevent] at hnone
      cases hnone

/-- A device that holds a policy which was never applied. -/
def unapplied : Device.Script where
  stored := ⟨[("asm/policies:/Common/r1", ⟨[("active", .flag false)]⟩)]⟩

/-- A policy that only has to be applied is not written, and the change that is
reported is the follow-up. -/
theorem unapplied_followsUp :
    (∀ call ∈ ((activation.reconcile .empty).run Device.scripted unapplied).calls,
        call.alters = false) ∧
      ∃ want, activation.kind.want activation.key.partition .empty activation.target = .ok want ∧
        activation.FollowsUp want Device.scripted unapplied
          ((activation.reconcile .empty).run Device.scripted unapplied).events := by
  have hunaltered : ∀ call ∈ ((activation.reconcile .empty).run Device.scripted unapplied).calls,
      call.alters = false := by
    have hcalls : ((activation.reconcile .empty).run Device.scripted unapplied).calls =
        [⟨.lookUp activation.key, .ok true⟩,
          ⟨.read activation.key, .ok ⟨[("active", .flag false)]⟩⟩,
          ⟨.submit .applyPolicy activation.key .empty, .ok "task-1"⟩,
          ⟨.poll .applyPolicy "task-1", .ok ⟨.completed, none⟩⟩] := rfl
    rw [hcalls]
    simp [Call.alters, Request.isWrite]
  refine ⟨hunaltered, ?_⟩
  have hok : ((activation.reconcile .empty).run Device.scripted unapplied).result =
      some (.ok ⟨true, _⟩) := rfl
  rcases (changed_iff_altered_or_followsUp rfl hok).1.mp rfl with ⟨call, hcall, halters⟩ | hfollowsUp
  · rw [hunaltered call hcall] at halters
    cases halters
  · exact hfollowsUp

end Pass
end DesiredState
