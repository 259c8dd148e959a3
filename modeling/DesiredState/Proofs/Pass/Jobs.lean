import DesiredState.Proofs.Pass.Repetition

/-!
# Passes that take jobs

The offline device carries out a job when it is submitted and finds it completed
at the first poll.  So a follow-up that asks for one success only is over after
one poll, and what it leaves behind is a function of the stored resource.  What
a whole pass leaves behind is then the written resource with the follow-ups that
were due applied to it in order; a second pass is quiet if nothing differs in
that resource from what is wanted and no follow-up is due for it.

A wait for a reload is not followed here: its polls report what the
configuration daemon shows, which a pass does not change.
-/

namespace DesiredState

namespace Conversation

variable {σ α β : Type}

/-- A talk that goes on with the result of another one ends as the second one
does from where the first one ended. -/
theorem ends_bind (device : Device σ) (talk : Conversation α) (next : α → Conversation β)
    (state : σ) :
    ((talk.bind next).run device state).ends =
      match (talk.run device state).ends with
      | (some result, after) => ((next result).run device after).ends
      | (none, after) => (none, after) := by
  induction talk generalizing state with
  | done result => rfl
  | ask request reply ih => exact ih _ _
  | sleep duration rest ih => exact ih _
  | notify notice rest ih => exact ih _
  | brokenOff => rfl

end Conversation

theorem Snapshot.get?_modify_self (snapshot : Snapshot) (key : String)
    (change : Attributes → Attributes) :
    (snapshot.modify key change).get? key = (snapshot.get? key).map change := by
  unfold modify
  cases hstored : snapshot.get? key with
  | none => simpa using hstored
  | some resource => exact get?_insert_self _ _ _

namespace Device
namespace Shelf

variable {snapshot : Snapshot} {job : Job}

/-- A poll finds every job completed but the wait for a reload. -/
theorem progress_observe (hjob : job ≠ .configReload) (id : String) :
    (observe snapshot job id).1.progress = .completed := by
  cases job with
  | configReload => exact absurd rfl hjob
  | _ => rfl

/-- Only a poll for a reboot changes the resources. -/
theorem snapshot_observe (hjob : job ≠ .awaitReboot) (id : String) :
    (observe snapshot job id).2 = snapshot := by
  cases job with
  | awaitReboot => exact absurd rfl hjob
  | configReload =>
      unfold observe
      dsimp only
      split
      · rfl
      · rfl
  | _ => rfl

/-- A poll for the reboot of a volume makes it active. -/
theorem snapshot_observe_awaitReboot (snapshot : Snapshot) {key : Key}
    (hkind : key.kind = Catalog.Volume.kindName) :
    (observe snapshot .awaitReboot key.path).2 =
      snapshot.modify key.display fun held => held.insert "active" (.flag true) := by
  rw [Key.display, hkind]
  rfl

/-- The path of a resource can be polled. -/
theorem knows_path (shelf : Shelf) (key : Key) : shelf.knows key.path = true := by
  have hslash : key.path.toList.head? = some '/' := by
    unfold Key.path qualify
    split
    · rename_i hqualified
      simp [hqualified]
    · simp [String.toList_append]
  simp [knows, hslash]

/-- An id that was just given out can be polled. -/
theorem knows_nextId (shelf : Shelf) (job : Job) (key : Key) (payload : Attributes) :
    (answer (.submit job key payload) shelf).2.knows (shelf.nextId job) = true := by
  simp only [answer, knows]
  split
  · rename_i hissued
    simpa using Or.inr hissued
  · simp

end Shelf
end Device

open Device

/-! ## Waits that one success ends -/

/-- A wait that one success ends, provided that a poll is made at all. -/
structure Wait.Prompt (wait : Wait) : Prop where
  /-- There is a budget for the first poll. -/
  started : wait.isOver 0 0 = false
  /-- A success need not be confirmed. -/
  unconfirmed : wait.confirmations ≤ 1

namespace Wait
namespace Prompt

variable {wait : Wait} {shelf : Shelf} {operation : Operation} {id : String}

/-- The first poll settles a prompt wait. -/
theorem absorb_eq (h : wait.Prompt) {job : Job} (hjob : job ≠ .configReload)
    (snapshot : Snapshot) (id : String) :
    wait.absorb {} (.ok (Shelf.observe snapshot job id).1) =
      .settled [] (.ok (.completed 1 (Shelf.observe snapshot job id).1.value)) := by
  simp only [absorb, absorbObservation, Shelf.progress_observe hjob]
  refine (if_pos h.unconfirmed).trans ?_
  rw [Seen.polled, Option.or_none]
  rfl

/-- A prompt wait is over after its first poll; without patience it is broken
off. -/
theorem ends_await (h : wait.Prompt) (hjob : operation.job ≠ .configReload)
    (hknown : shelf.knows id = true) (patience : Nat) :
    ((wait.await operation patience id).run offline shelf).ends =
      let polled := Shelf.observe shelf.snapshot operation.job id
      if patience = 0 then
        (none, shelf)
      else
        (some (.ok (.completed 1 polled.1.value)), { shelf with snapshot := polled.2 }) := by
  have hfollow : ((wait.await operation patience id).run offline shelf).ends =
      ((wait.follow operation.label operation.job id patience {}).run offline shelf).ends := by
    unfold await
    dsimp only
    split
    · rfl
    · rfl
  rw [hfollow]
  cases patience with
  | zero =>
      unfold follow
      rw [UInt32.toNat_zero, h.started]
      rfl
  | succ left =>
      unfold follow
      rw [UInt32.toNat_zero, h.started]
      simp only [Bool.false_eq_true, if_false, Conversation.run, Run.ends_after, offline,
        Shelf.answer, hknown, if_true, h.absorb_eq hjob, Conversation.notifyAll, List.foldr_nil]
      rfl

/-- Where an operation is only watched, its path is polled. -/
theorem ends_track_watch (h : wait.Prompt) (hmode : operation.mode = .watch)
    (hjob : operation.job ≠ .configReload) (patience : Nat) :
    ((wait.track patience operation).run offline shelf).ends =
      let polled := Shelf.observe shelf.snapshot operation.job operation.key.path
      if patience = 0 then
        (none, shelf)
      else
        (some (.ok (.completed 1 polled.1.value)), { shelf with snapshot := polled.2 }) := by
  unfold track
  rw [hmode]
  exact h.ends_await hjob (shelf.knows_path operation.key) patience

/-- Where an operation is submitted, the id that was given out is polled. -/
theorem ends_track_submit (h : wait.Prompt) (hmode : operation.mode = .submit)
    (hjob : operation.job ≠ .configReload) (patience : Nat) :
    ((wait.track patience operation).run offline shelf).ends =
      let submitted := (Shelf.answer (.submit operation.job operation.key operation.payload)
        shelf).2
      let polled := Shelf.observe submitted.snapshot operation.job (shelf.nextId operation.job)
      if patience = 0 then
        (none, submitted)
      else
        (some (.ok (.completed 1 polled.1.value)), { submitted with snapshot := polled.2 }) := by
  unfold track
  rw [hmode]
  exact h.ends_await hjob
    (shelf.knows_nextId operation.job operation.key operation.payload) patience

end Prompt
end Wait

/-! ## What follow-ups leave behind -/

namespace FollowUp

/-- A follow-up that is over after one poll, and whose effect is on the resource
that it follows. -/
structure Prompt (followUp : FollowUp) (kindName : String) : Prop where
  /-- One success ends the wait. -/
  wait : followUp.wait.Prompt
  /-- The first poll finds the job completed. -/
  completes : followUp.job ≠ .configReload
  /-- A reboot is only watched. -/
  watched : followUp.mode = .submit → followUp.job ≠ .awaitReboot
  /-- Only volumes are rebooted into. -/
  bootable : followUp.job = .awaitReboot → kindName = Catalog.Volume.kindName

/-- What a follow-up leaves of a stored resource. -/
def leaves (followUp : FollowUp) (payload stored : Attributes) : Attributes :=
  match followUp.mode, followUp.job with
  | .submit, .applyPolicy => stored.insert "active" (.flag true)
  | .submit, .installSoftware => Shelf.installed payload stored
  | .watch, .awaitReboot => stored.insert "active" (.flag true)
  | _, _ => stored

variable {followUp : FollowUp} {key : Key} {payload : Attributes} {shelf after : Shelf}
  {patience : Nat} {result : Except Fault Outcome}

/-- What a follow-up makes of a snapshot: what is submitted has its effect at once, and
what is watched when it is polled. -/
def effect (followUp : FollowUp) (key : Key) (payload : Attributes) (snapshot : Snapshot) :
    Snapshot :=
  match followUp.mode with
  | .submit => Shelf.applyJob snapshot followUp.job key.display payload
  | .watch => (Shelf.observe snapshot followUp.job key.path).2

/-- The operation of a follow-up on a resource. -/
abbrev operation (followUp : FollowUp) (key : Key) (payload : Attributes) : Operation :=
  ⟨followUp.job, key, payload, followUp.mode⟩

/-- A prompt follow-up leaves of the stored resource what it leaves. -/
theorem Prompt.get?_effect (h : followUp.Prompt key.kind) (payload : Attributes)
    (snapshot : Snapshot) :
    (followUp.effect key payload snapshot).get? key.display =
      (snapshot.get? key.display).map (followUp.leaves payload) := by
  obtain ⟨job, mode, wait, trigger, report⟩ := followUp
  -- a job that is not named by `leaves` leaves the resource as it is
  have hkept : ∀ stored : Option Attributes, stored = stored.map fun held => held := by simp
  cases mode with
  | submit =>
      cases job with
      | applyPolicy | installSoftware => exact Snapshot.get?_modify_self _ _ _
      | _ => exact hkept _
  | watch =>
      by_cases hreboot : job = .awaitReboot
      · subst hreboot
        rw [effect, Shelf.snapshot_observe_awaitReboot _ (h.bootable rfl)]
        exact Snapshot.get?_modify_self _ _ _
      · rw [effect, Shelf.snapshot_observe hreboot]
        cases job with
        | awaitReboot => exact absurd rfl hreboot
        | _ => exact hkept _

/-- A prompt follow-up is broken off where there is no patience for a poll, and else
ends well with its effect. -/
theorem Prompt.ends_track (h : followUp.Prompt key.kind) (payload : Attributes)
    (patience : Nat) (shelf : Shelf) :
    ∃ outcome stopped after,
      ((followUp.wait.track patience (followUp.operation key payload)).run offline shelf).ends =
          (if patience = 0 then (none, stopped) else (some (.ok outcome), after)) ∧
        after.snapshot = followUp.effect key payload shelf.snapshot := by
  obtain ⟨job, mode, wait, trigger, report⟩ := followUp
  obtain ⟨hwait, hcompletes, hwatched, -⟩ := h
  cases mode with
  | submit =>
      refine ⟨_, _, _, hwait.ends_track_submit rfl hcompletes patience, ?_⟩
      exact Shelf.snapshot_observe (hwatched rfl) _
  | watch => exact ⟨_, _, _, hwait.ends_track_watch rfl hcompletes patience, rfl⟩

/-- A prompt follow-up that ends has succeeded, and has left behind what it
leaves of the stored resource. -/
theorem Prompt.stored_of_track (h : followUp.Prompt key.kind)
    (hends : ((followUp.wait.track patience
      ⟨followUp.job, key, payload, followUp.mode⟩).run offline shelf).ends =
        (some result, after)) :
    (∃ outcome, result = .ok outcome) ∧ after.snapshot.get? key.display =
      (shelf.snapshot.get? key.display).map (followUp.leaves payload) := by
  obtain ⟨outcome, stopped, found, hfound, heffect⟩ := h.ends_track payload patience shelf
  rw [hends] at hfound
  split at hfound
  · cases hfound
  · obtain ⟨hresult, rfl⟩ := Prod.mk.inj hfound
    refine ⟨⟨outcome, Option.some.inj hresult⟩, ?_⟩
    rw [heffect]
    exact h.get?_effect payload shelf.snapshot

/-- What the follow-ups that are due leave of a stored resource, one after the
other. -/
def leaveAll (satisfied wrote : Bool) (payload : Attributes) (followUps : List FollowUp)
    (stored : Attributes) : Attributes :=
  followUps.foldl
    (fun held followUp =>
      if followUp.isDue satisfied wrote then followUp.leaves payload held else held)
    stored

/-- Where the follow-ups that are due leave a resource as it is, so do all of them in
turn. -/
theorem leaveAll_of_unaltered {satisfied wrote : Bool} {stored : Attributes}
    {followUps : List FollowUp} (h : ∀ followUp ∈ followUps,
      followUp.isDue satisfied wrote = true → followUp.leaves payload stored = stored) :
    leaveAll satisfied wrote payload followUps stored = stored := by
  induction followUps with
  | nil => rfl
  | cons followUp rest ih =>
      obtain ⟨hfirst, hrest⟩ := List.forall_mem_cons.mp h
      have hstep : (if followUp.isDue satisfied wrote then followUp.leaves payload stored
          else stored) = stored := by
        split
        · exact hfirst ‹_›
        · rfl
      rw [leaveAll, List.foldl_cons, hstep]
      exact ih hrest

/-- Where no follow-up is due, all is left as it is. -/
theorem leaveAll_of_idle {satisfied wrote : Bool} {followUps : List FollowUp}
    (h : ∀ followUp ∈ followUps, followUp.isDue satisfied wrote = false)
    (payload stored : Attributes) :
    leaveAll satisfied wrote payload followUps stored = stored := by
  refine leaveAll_of_unaltered fun followUp hmem hdue => ?_
  rw [h followUp hmem] at hdue
  cases hdue

end FollowUp

namespace Pass

variable {pass : Pass} {params want held changes raw : Attributes} {shelf after : Shelf}
  {report : Report}

/-- What the follow-ups of a pass leave of a stored resource. -/
def leaves (pass : Pass) (want : Attributes) (satisfied wrote : Bool) :
    Attributes → Attributes :=
  FollowUp.leaveAll satisfied wrote (pass.kind.write want) (pass.kind.followUpsOf pass.target)

/-- Prompt follow-ups that run to a report have left what they leave of the
stored resource. -/
theorem stored_of_runFollowUps {satisfied wrote : Bool} {followUps : List FollowUp}
    {sofar : Report} (hprompt : ∀ followUp ∈ followUps, followUp.Prompt pass.key.kind)
    (hends : ((pass.runFollowUps want satisfied wrote followUps sofar).run offline shelf).ends =
      (some (.ok report), after)) :
    after.snapshot.get? pass.key.display =
      (shelf.snapshot.get? pass.key.display).map
        (FollowUp.leaveAll satisfied wrote (pass.kind.write want) followUps) := by
  induction followUps generalizing sofar shelf with
  | nil =>
      rw [runFollowUps, ends_succeed] at hends
      obtain ⟨-, rfl⟩ := Prod.mk.inj hends
      exact Option.map_id'.symm
  | cons followUp rest ih =>
      have hrest : ∀ other ∈ rest, other.Prompt pass.key.kind :=
        fun other hother => hprompt other (List.mem_cons_of_mem _ hother)
      unfold FollowUp.leaveAll
      simp only [List.foldl_cons]
      cases hdue : followUp.isDue satisfied wrote with
      | false =>
          simp only [runFollowUps, hdue, Bool.false_eq_true, if_false] at hends
          exact ih hrest hends
      | true =>
          simp only [runFollowUps, hdue, if_true, Conversation.ends_bind] at hends
          -- only a follow-up that succeeds is gone on from
          split at hends
          · rename_i result between htrack
            obtain ⟨⟨outcome, rfl⟩, hbetween⟩ :=
              (hprompt followUp List.mem_cons_self).stored_of_track htrack
            rw [ih hrest hends, hbetween, Option.map_map]
            rfl
          · cases hends

/-- Prompt follow-ups run to a report, where there is patience for a poll. -/
theorem exists_report_of_runFollowUps (hpatience : pass.patience ≠ 0) {satisfied wrote : Bool}
    {followUps : List FollowUp} (hprompt : ∀ followUp ∈ followUps, followUp.Prompt pass.key.kind)
    (sofar : Report) (shelf : Shelf) :
    ∃ report after,
      ((pass.runFollowUps want satisfied wrote followUps sofar).run offline shelf).ends =
        (some (.ok report), after) := by
  induction followUps generalizing sofar shelf with
  | nil => exact ⟨sofar, shelf, rfl⟩
  | cons followUp rest ih =>
      obtain ⟨hfirst, hrest⟩ := List.forall_mem_cons.mp hprompt
      rw [runFollowUps]
      split
      · obtain ⟨outcome, stopped, between, htrack, -⟩ :=
          hfirst.ends_track (pass.kind.write want) pass.patience shelf
        rw [if_neg hpatience] at htrack
        rw [Conversation.ends_bind, htrack]
        exact ih hrest _ _
      · exact ih hrest _ _

/-! ## Passes that follow up -/

/-- A pass that is carried out, sets no flags, and whose follow-ups are over
after one poll each. -/
structure Prompt (pass : Pass) : Prop where
  /-- The pass is no dry run. -/
  live : pass.checkOnly = false
  /-- There are no flags. -/
  flagless : pass.kind.flags = none
  /-- Nothing is written for no changes. -/
  writesNothing : pass.kind.write .empty = .empty
  /-- Every follow-up is prompt. -/
  followUps : ∀ followUp ∈ pass.kind.followUpsOf pass.target, followUp.Prompt pass.key.kind

theorem flagsOfUpdate_of_flagless (hflagless : pass.kind.flags = none)
    (observed : Condition) : pass.flagsOfUpdate observed = none := by
  rw [flagsOfUpdate, hflagless]

/-- A condition that satisfies the target makes no follow-up due. -/
theorem followUpsDue_of_satisfied {observed : Condition}
    (h : pass.target.satisfiedBy observed = true) : pass.followUpsDue observed = false := by
  simp [followUpsDue, h]

theorem followUpsDue_of_jobless (h : pass.kind.followUpsOf pass.target = [])
    (observed : Condition) : pass.followUpsDue observed = false := by
  rw [followUpsDue, h]
  rfl

/-- Where nothing is written and none makes a change, no follow-up is due. -/
theorem isDue_eq_false {observed : Condition} (hdue : pass.followUpsDue observed = false) :
    ∀ followUp ∈ pass.kind.followUpsOf pass.target,
      followUp.isDue (pass.target.satisfiedBy observed) false = false := by
  intro followUp hfollowUp
  have hquiet := List.any_eq_false.mp hdue followUp hfollowUp
  cases htrigger : followUp.trigger with
  | unsatisfied => simpa [FollowUp.isDue, htrigger] using hquiet
  | afterWrite => simp [FollowUp.isDue, htrigger]

/-- Where nothing is written and no follow-up is due, nothing is left behind. -/
theorem leaves_of_idle {observed : Condition} (hdue : pass.followUpsDue observed = false)
    (want stored : Attributes) :
    pass.leaves want (pass.target.satisfiedBy observed) false stored = stored :=
  FollowUp.leaveAll_of_idle (isDue_eq_false hdue) _ _

/-- After an update that succeeds, the resource is stored with the changes and
with what the follow-ups leave. -/
theorem Prompt.stored_of_converge (h : pass.Prompt)
    (hraw : shelf.snapshot.get? pass.key.display = some raw)
    (hends : ((pass.converge want held changes).run offline shelf).ends =
      (some (.ok report), after)) :
    after.snapshot.get? pass.key.display =
      some (pass.leaves want (pass.target.satisfiedBy (pass.kind.observe held want))
        (!changes.isEmpty) (raw.update (pass.kind.write changes))) := by
  have hunchanged : changes.isEmpty = true → raw.update (pass.kind.write changes) = raw := by
    intro hempty
    rw [Attributes.eq_empty_of_isEmpty hempty, h.writesNothing]
    rfl
  unfold converge at hends
  simp only [flagsOfUpdate_of_flagless h.flagless, h.live, Option.isSome_none, Bool.or_false,
    Bool.false_eq_true, if_false] at hends
  cases hempty : changes.isEmpty with
  | true =>
      rw [hunchanged hempty]
      cases hdue : pass.followUpsDue (pass.kind.observe held want) with
      | false =>
          simp only [hempty, hdue, Bool.not_true, Bool.not_false, Bool.and_self, if_true,
            ends_succeed] at hends
          obtain ⟨-, rfl⟩ := Prod.mk.inj hends
          rw [hraw, Bool.not_true, leaves_of_idle hdue]
      | true =>
          simp only [hempty, hdue, Bool.not_true, Bool.and_false, Bool.false_eq_true,
            if_false] at hends
          rw [stored_of_runFollowUps h.followUps hends, hraw]
          rfl
  | false =>
      simp only [hempty, Bool.not_false, Bool.not_true, Bool.false_and, Bool.false_eq_true,
        if_false, if_true] at hends
      rw [ends_update_of_some _ _ hraw] at hends
      rw [stored_of_runFollowUps h.followUps hends, Snapshot.get?_insert_self,
        flagsOfUpdate_of_flagless h.flagless]
      rfl

/-- Over a resource that is there, a pass of prompt follow-ups succeeds once it is known
what differs, and leaves the resource with the changes and with what the follow-ups
leave. -/
theorem Prompt.ends_reconcile_of_some (h : pass.Prompt) (hpatience : pass.patience ≠ 0)
    (hwant : pass.kind.want pass.key.partition params pass.target = .ok want)
    (htarget : pass.target ≠ .absent)
    (hraw : shelf.snapshot.get? pass.key.display = some raw)
    (hchanges : pass.kind.changes want (pass.kind.read raw) = .ok changes) :
    ∃ report after,
      ((pass.reconcile params).run offline shelf).ends = (some (.ok report), after) ∧
        after.snapshot.get? pass.key.display =
          some (pass.leaves want
            (pass.target.satisfiedBy (pass.kind.observe (pass.kind.read raw) want))
              (!changes.isEmpty) (raw.update (pass.kind.write changes))) := by
  have hends := Pass.ends_reconcile_of_some hwant htarget hraw
  rw [hchanges] at hends
  obtain ⟨report, after, hconverge⟩ : ∃ report after,
      ((pass.converge want (pass.kind.read raw) changes).run offline shelf).ends =
        (some (.ok report), after) := by
    unfold converge
    simp only [h.live, Bool.false_eq_true, if_false]
    split
    · exact ⟨_, _, rfl⟩
    · split
      · rw [ends_update_of_some _ _ hraw]
        exact exists_report_of_runFollowUps hpatience h.followUps _ _
      · exact exists_report_of_runFollowUps hpatience h.followUps _ _
  exact ⟨report, after, hends.trans hconverge, h.stored_of_converge hraw hconverge⟩

/-- After a creation that succeeds, the resource is stored as it was created and
with what the follow-ups leave. -/
theorem Prompt.stored_of_create (h : pass.Prompt) {creation : Attributes}
    (hcreation : pass.kind.creation want = .ok creation)
    (hnone : shelf.snapshot.get? pass.key.display = none)
    (hends : ((pass.create want).run offline shelf).ends = (some (.ok report), after)) :
    after.snapshot.get? pass.key.display =
      some (pass.leaves want (pass.target.satisfiedBy (pass.kind.observe creation want)) true
        (pass.creationBody creation)) := by
  have hflags : pass.flagsAfterCreation = none := by rw [flagsAfterCreation, h.flagless]
  simp only [create, hcreation, obtain, h.live, Bool.false_eq_true, if_false, hflags] at hends
  rw [ends_create_of_none _ _ hnone] at hends
  rw [stored_of_runFollowUps h.followUps hends, Snapshot.get?_insert_self]
  rfl

/-- A stored resource needs nothing more: nothing differs from what is wanted,
and no follow-up is due. -/
structure Finished (pass : Pass) (want stored : Attributes) : Prop where
  /-- Nothing is left to change. -/
  settled : pass.kind.schema.Settled pass.kind.updatable pass.kind.dependencies want
    (pass.kind.read stored)
  /-- No follow-up is due for the condition that is observed. -/
  followedUp : pass.followUpsDue (pass.kind.observe (pass.kind.read stored) want) = false

/-- A resource as a pass has just written it: nothing is left to change, and its
condition is the one that the follow-ups are told. -/
structure Written (pass : Pass) (want stored : Attributes) (observed : Condition) : Prop where
  /-- No name is stored twice. -/
  distinct : stored.Distinct
  /-- Nothing is left to change. -/
  settled : pass.kind.schema.Settled pass.kind.updatable pass.kind.dependencies want
    (pass.kind.read stored)
  /-- What would be observed now was observed before. -/
  observed_eq : pass.kind.observe (pass.kind.read stored) want = observed

/-- A written resource needs nothing more where no follow-up is due. -/
theorem Written.finished {stored : Attributes} {observed : Condition}
    (h : pass.Written want stored observed) (hdue : pass.followUpsDue observed = false) :
    pass.Finished want stored where
  settled := h.settled
  followedUp := h.observed_eq ▸ hdue

/-- A pass without flags over a resource that needs nothing more is quiet. -/
theorem Finished.quiet (h : pass.Finished want raw) (hflagless : pass.kind.flags = none)
    (hwant : pass.kind.want pass.key.partition params pass.target = .ok want)
    (htarget : pass.target ≠ .absent)
    (hraw : shelf.snapshot.get? pass.key.display = some raw) :
    Quiet ((pass.reconcile params).run offline shelf) shelf.snapshot := by
  obtain ⟨changes, hchanges, hempty⟩ := Schema.settled_iff_changes_isEmpty.mp h.settled
  have hends := ends_reconcile_of_some hwant htarget hraw
  rw [ResourceKind.changes, hchanges] at hends
  simp only [obtain, converge, flagsOfUpdate_of_flagless hflagless, hempty, h.followedUp,
    Option.isSome_none, Bool.or_false, Bool.not_true, Bool.not_false, Bool.and_self, if_true,
    ends_succeed] at hends
  rw [quiet_iff_of_ends hends]
  exact ⟨_, rfl, rfl, rfl⟩

/-- What a pass of prompt follow-ups leaves behind needs nothing more, provided that
this is so for what a creation, or an update, comes to with its follow-ups. -/
theorem Prompt.finished_of_ok (h : pass.Prompt)
    (hok : ((pass.reconcile params).run offline shelf).result = some (.ok report))
    (hwant : pass.kind.want pass.key.partition params pass.target = .ok want)
    (htarget : pass.target ≠ .absent)
    (hcreation : ∀ {created : Attributes}, pass.kind.singleton = false →
      pass.kind.creation want = .ok created →
        pass.Finished want (pass.leaves want
          (pass.target.satisfiedBy (pass.kind.observe created want)) true
            (pass.creationBody created)))
    (hupdate : ∀ raw changes, shelf.snapshot.get? pass.key.display = some raw →
      pass.kind.changes want (pass.kind.read raw) = .ok changes →
        pass.Finished want (pass.leaves want
          (pass.target.satisfiedBy (pass.kind.observe (pass.kind.read raw) want))
            (!changes.isEmpty) (raw.update (pass.kind.write changes)))) :
    ∃ stored, ((pass.reconcile params).run offline shelf).state.snapshot.get?
        pass.key.display = some stored ∧ pass.Finished want stored := by
  cases hstored : shelf.snapshot.get? pass.key.display with
  | none =>
      obtain ⟨created, hsingleton, hcreated, hends⟩ := creates_of_ok hok hwant htarget hstored
      rw [Run.ends, hok] at hends
      exact ⟨_, h.stored_of_create hcreated hstored hends.symm,
        hcreation hsingleton hcreated⟩
  | some raw =>
      obtain ⟨changes, hchanges, hends⟩ := converges_of_ok hok hwant htarget hstored
      rw [Run.ends, hok] at hends
      exact ⟨_, h.stored_of_converge hstored hends.symm, hupdate raw changes hstored hchanges⟩

end Pass

/-! ## Repetition -/

/-- A kind without flags whose follow-ups toward a target are over after one
poll each. -/
structure ResourceKind.Prompt (kind : ResourceKind) (target : Target) : Prop where
  /-- There are no flags. -/
  flagless : kind.flags = none
  /-- Nothing is written for no changes. -/
  writesNothing : kind.write .empty = .empty
  /-- What always exists cannot be removed. -/
  kept : kind.singleton = true → kind.supports .absent = false
  /-- Every follow-up is prompt. -/
  followUps : ∀ followUp ∈ kind.followUpsOf target, followUp.Prompt kind.name

namespace Plan

open Pass

variable {order : WorkOrder} {patience : Nat} {shelf : Shelf} {report : Report}

theorem named_of_passOf {pass : Pass} (hpass : passOf order patience = .ok pass) :
    pass.key.kind = pass.kind.name := by
  obtain ⟨_, -, hrest⟩ := bind_eq_ok_iff.mp hpass
  obtain ⟨_, -, hrest⟩ := bind_eq_ok_iff.mp hrest
  obtain ⟨key, hkey, hrest⟩ := bind_eq_ok_iff.mp hrest
  obtain ⟨_, -, hkey⟩ := bind_eq_ok_iff.mp hkey
  obtain rfl := Except.ok.inj hrest
  obtain rfl := Except.ok.inj hkey
  rfl

theorem prompt_of_passOf {pass : Pass} (hpass : passOf order patience = .ok pass)
    (hprompt : pass.kind.Prompt order.target) (hlive : order.checkOnly = false) :
    pass.Prompt where
  live := by
    obtain ⟨-, -, -, hcheck⟩ := passOf_eq_ok hpass
    rw [hcheck, hlive]
  flagless := hprompt.flagless
  writesNothing := hprompt.writesNothing
  followUps := by
    rw [target_of_passOf hpass, named_of_passOf hpass]
    exact hprompt.followUps

/-- Repeating a work order is quiet, provided that what passes of its kind leave
behind needs nothing more. -/
theorem repeats_of_finished {kind : ResourceKind}
    (hkind : ∀ pass, passOf order patience = .ok pass → pass.kind = kind)
    (hprompt : kind.Prompt order.target) (hlive : order.checkOnly = false)
    (hok : (run order patience shelf).result = some (.ok report))
    (hcreation : ∀ {pass : Pass} {want created : Attributes}, pass.kind = kind →
      pass.target = order.target → pass.target ≠ .absent →
        kind.Accepts pass.key.partition order.params pass.target want →
          kind.singleton = false → kind.creation want = .ok created →
            pass.Finished want (pass.leaves want
              (pass.target.satisfiedBy (kind.observe created want)) true
                (pass.creationBody created)))
    (hupdate : ∀ {pass : Pass} {want raw changes : Attributes}, pass.kind = kind →
      pass.target = order.target → pass.target ≠ .absent →
        kind.Accepts pass.key.partition order.params pass.target want →
          shelf.snapshot.get? pass.key.display = some raw →
            kind.changes want (kind.read raw) = .ok changes →
              pass.Finished want (pass.leaves want
                (pass.target.satisfiedBy (kind.observe (kind.read raw) want))
                  (!changes.isEmpty) (raw.update (kind.write changes)))) :
    Repeats order patience shelf := by
  obtain ⟨pass, hpass⟩ := passOf_of_ok hok
  obtain rfl := hkind pass hpass
  have hsame := target_of_passOf hpass
  have hpassPrompt := prompt_of_passOf hpass hprompt hlive
  by_cases htarget : pass.target = .absent
  · exact repeats_of_absent hpass hprompt.kept hlive htarget hok
  · have hrun := run_of_passOf hpass shelf
    rw [hrun] at hok
    obtain ⟨want, hwant⟩ := want_of_ok hok
    have haccepts := ResourceKind.accepts_of_want hwant
    obtain ⟨stored, hafter, hfinished⟩ := hpassPrompt.finished_of_ok hok hwant htarget
      (hcreation rfl hsame htarget haccepts)
      (fun _ _ hraw => hupdate rfl hsame htarget haccepts hraw)
    rw [← hrun] at hafter
    intro again hagain
    rw [run_of_passOf hpass]
    refine hfinished.quiet hprompt.flagless hwant htarget ?_
    rw [hagain]
    exact hafter

end Plan
end DesiredState
