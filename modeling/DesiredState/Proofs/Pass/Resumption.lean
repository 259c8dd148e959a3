import DesiredState.Proofs.Pass.Effects
import DesiredState.Proofs.Pass.Minutes

/-!
# Going on after a cut

There are no transactions: a pass that is cut off leaves the device as its last
request has left it.  To go on from there is to start over, and the second pass
meets a resource that the first one has written in part, on the path of an
update, with other changes and other follow-ups due.

* `Brings` — what a pass of prompt follow-ups makes of a snapshot: whether it
  succeeds, the snapshot at its end, and every snapshot on its way there;
* `Resumable` — what is asked of a resource in between: nothing differs from what
  is wanted, and the follow-ups that are due for it now leave the same as those
  that were still to come;
* `resumes_of_brings` — if this holds wherever a pass can be cut off, a second
  pass succeeds and leaves the same snapshot.

Before its first effect the pass is cut off where it began, and simply runs
again.  Which resources are resumable is said kind by kind.
-/

namespace DesiredState
namespace Pass

open Conversation Device

variable {pass : Pass} {params want raw changes : Attributes} {shelf : Shelf} {report : Report}
  {followUps : List FollowUp} {satisfied wrote : Bool} {written : Snapshot} {talk : Talk}

/-- The patience of a pass is enough for the follow-ups that are due. -/
def Affords (pass : Pass) (followUps : List FollowUp) (satisfied wrote : Bool) : Prop :=
  pass.patience ≠ 0 ∨ ∀ followUp ∈ followUps, followUp.isDue satisfied wrote = false

/-- What the follow-ups that are due make of a snapshot. -/
def effects (pass : Pass) (want : Attributes) (satisfied wrote : Bool)
    (followUps : List FollowUp) : Snapshot → Snapshot :=
  FollowUp.effectAll satisfied wrote pass.key (pass.kind.write want) followUps

/-- A snapshot after the update of a stored resource, if it needs any. -/
def afterUpdate (pass : Pass) (raw changes : Attributes) (snapshot : Snapshot) : Snapshot :=
  if changes.isEmpty then snapshot
  else snapshot.insert pass.key.display (raw.update (pass.kind.write changes))

/-- A snapshot as the first few of some follow-ups have made it, if they are due. -/
def Underway (pass : Pass) (want : Attributes) (satisfied wrote : Bool)
    (followUps : List FollowUp) (written found : Snapshot) : Prop :=
  ∃ past rest, followUps = past ++ rest ∧
    found = pass.effects want satisfied wrote past written

/-- A talk writes a snapshot at most once, and then runs the follow-ups that are
due. -/
structure Brings (pass : Pass) (want : Attributes) (followUps : List FollowUp)
    (satisfied wrote : Bool) (written : Snapshot) (talk : Talk) (shelf : Shelf) : Prop where
  /-- The talk succeeds exactly where there is enough patience. -/
  succeeds_iff : (∃ report, (talk.run offline shelf).result = some (.ok report)) ↔
    pass.Affords followUps satisfied wrote
  /-- A talk that succeeds leaves behind what the follow-ups make of what is written. -/
  leaves : pass.Affords followUps satisfied wrote → (talk.run offline shelf).state.snapshot =
    pass.effects want satisfied wrote followUps written
  /-- In between, nothing has been written, or the follow-ups are under way. -/
  midway : Throughout offline talk shelf fun other => other.snapshot = shelf.snapshot ∨
    pass.Underway want satisfied wrote followUps written other.snapshot

/-! ## Follow-ups -/

theorem affords_cons_of_idle {followUp : FollowUp}
    (h : followUp.isDue satisfied wrote = false) :
    pass.Affords (followUp :: followUps) satisfied wrote ↔
      pass.Affords followUps satisfied wrote := by
  simp [Affords, h]

theorem affords_cons_of_due {followUp : FollowUp} (h : followUp.isDue satisfied wrote = true) :
    pass.Affords (followUp :: followUps) satisfied wrote ↔ pass.patience ≠ 0 := by
  simp [Affords, h]

theorem effects_cons_of_idle {followUp : FollowUp}
    (h : followUp.isDue satisfied wrote = false) (snapshot : Snapshot) :
    pass.effects want satisfied wrote (followUp :: followUps) snapshot =
      pass.effects want satisfied wrote followUps snapshot := by
  rw [effects, FollowUp.effectAll, List.foldl_cons, h, if_neg Bool.false_ne_true]
  rfl

theorem effects_cons_of_due {followUp : FollowUp} (h : followUp.isDue satisfied wrote = true)
    (snapshot : Snapshot) :
    pass.effects want satisfied wrote (followUp :: followUps) snapshot =
      pass.effects want satisfied wrote followUps
        (followUp.effect pass.key (pass.kind.write want) snapshot) := by
  rw [effects, FollowUp.effectAll, List.foldl_cons, h, if_pos rfl]
  rfl

theorem underway_start (followUps : List FollowUp) (written : Snapshot) :
    pass.Underway want satisfied wrote followUps written written :=
  ⟨[], followUps, rfl, rfl⟩

theorem Underway.cons_of_idle {followUp : FollowUp} {found : Snapshot}
    (h : pass.Underway want satisfied wrote followUps written found)
    (hidle : followUp.isDue satisfied wrote = false) :
    pass.Underway want satisfied wrote (followUp :: followUps) written found := by
  obtain ⟨past, rest, rfl, rfl⟩ := h
  exact ⟨followUp :: past, rest, rfl, (effects_cons_of_idle hidle written).symm⟩

theorem Underway.cons_of_due {followUp : FollowUp} {found : Snapshot}
    (h : pass.Underway want satisfied wrote followUps
      (followUp.effect pass.key (pass.kind.write want) written) found)
    (hdue : followUp.isDue satisfied wrote = true) :
    pass.Underway want satisfied wrote (followUp :: followUps) written found := by
  obtain ⟨past, rest, rfl, rfl⟩ := h
  exact ⟨followUp :: past, rest, rfl, (effects_cons_of_due hdue written).symm⟩

section Bind

variable {followUp : FollowUp} {next : Except Fault Outcome → Talk}
  (h : followUp.Prompt pass.key.kind) (hdue : followUp.isDue satisfied wrote = true)
include h hdue

/-- While a prompt follow-up runs, it has had its effect or not. -/
theorem throughout_errand : Throughout offline (pass.errandTalk want followUp) shelf fun other =>
    other.snapshot = shelf.snapshot ∨
      pass.Underway want satisfied wrote (followUp :: followUps) shelf.snapshot
        other.snapshot := by
  refine h.throughout_track.mono fun other hother => hother.imp_right fun hnow => ?_
  rw [hnow]
  exact (underway_start _ _).cons_of_due hdue

/-- Without patience the talk is broken off with a follow-up. -/
theorem brings_bind_of_impatient (hpatience : pass.patience = 0)
    (hbroken : ((pass.errandTalk want followUp).run offline shelf).result = none) :
    pass.Brings want (followUp :: followUps) satisfied wrote shelf.snapshot
      ((pass.errandTalk want followUp).bind next) shelf := by
  refine ⟨iff_of_false ?_ ?_, ?_, throughout_bind (throughout_errand h hdue) ?_⟩
  · rintro ⟨other, hok⟩
    obtain ⟨value, hvalue, -⟩ := result_run_bind hok
    cases hbroken.symm.trans hvalue
  · rw [affords_cons_of_due hdue]
    exact fun h => h hpatience
  · rw [affords_cons_of_due hdue]
    exact fun h => absurd hpatience h
  · intro value hvalue
    cases hbroken.symm.trans hvalue

/-- With patience a follow-up has its effect, and then the talk goes on. -/
theorem brings_bind_of_patient {outcome : Outcome} {after : Shelf}
    (hpatience : pass.patience ≠ 0)
    (hends : ((pass.errandTalk want followUp).run offline shelf).ends =
      (some (.ok outcome), after))
    (heffect : after.snapshot = followUp.effect pass.key (pass.kind.write want) shelf.snapshot)
    (hnext : pass.Brings want followUps satisfied wrote after.snapshot (next (.ok outcome))
      after) :
    pass.Brings want (followUp :: followUps) satisfied wrote shelf.snapshot
      ((pass.errandTalk want followUp).bind next) shelf := by
  obtain ⟨hdone, hafter⟩ := result_of_ends hends
  obtain ⟨hsucceeds, hleaves, hmidway⟩ := hnext
  have hrest := ends_bind offline (pass.errandTalk want followUp) next shelf
  rw [hends] at hrest
  obtain ⟨hresult, hstate⟩ := Prod.mk.inj hrest
  have hafford : pass.Affords followUps satisfied wrote := Or.inl hpatience
  refine ⟨?_, fun _ => ?_, throughout_bind (throughout_errand h hdue) ?_⟩
  · rw [hresult, affords_cons_of_due hdue]
    exact iff_of_true (hsucceeds.mpr hafford) hpatience
  · rw [hstate, hleaves hafford, heffect, effects_cons_of_due hdue]
  · intro value hvalue
    obtain rfl := Option.some.inj (hvalue.symm.trans hdone)
    rw [hafter]
    rw [heffect] at hmidway
    refine hmidway.mono fun other hother => Or.inr ?_
    rcases hother with hsame | hunderway
    · rw [hsame]
      exact (underway_start _ _).cons_of_due hdue
    · exact hunderway.cons_of_due hdue

/-- A prompt follow-up that is due has its effect, and then the talk goes on; without
patience it is broken off. -/
theorem brings_bind
    (hnext : ∀ outcome other, pass.Brings want followUps satisfied wrote other.snapshot
      (next (.ok outcome)) other) :
    pass.Brings want (followUp :: followUps) satisfied wrote shelf.snapshot
      ((pass.errandTalk want followUp).bind next) shelf := by
  obtain ⟨outcome, stopped, after, hends, heffect⟩ :=
    h.ends_track (pass.kind.write want) pass.patience shelf
  change ((pass.errandTalk want followUp).run offline shelf).ends = _ at hends
  by_cases hpatience : pass.patience = 0
  · rw [if_pos hpatience] at hends
    exact brings_bind_of_impatient h hdue hpatience (result_of_ends hends).1
  · rw [if_neg hpatience] at hends
    exact brings_bind_of_patient h hdue hpatience hends heffect (hnext outcome after)

end Bind

/-- Prompt follow-ups have their effects on the snapshot that they find. -/
theorem brings_runFollowUps (h : ∀ followUp ∈ followUps, followUp.Prompt pass.key.kind)
    (shelf : Shelf) (report : Report) :
    pass.Brings want followUps satisfied wrote shelf.snapshot
      (pass.runFollowUps want satisfied wrote followUps report) shelf := by
  induction followUps generalizing shelf report with
  | nil =>
      refine ⟨iff_of_true ⟨report, rfl⟩ (Or.inr (List.forall_mem_nil _)), fun _ => rfl, ?_⟩
      exact throughout_done (Or.inl rfl)
  | cons followUp rest ih =>
      obtain ⟨hfirst, hrest⟩ := List.forall_mem_cons.mp h
      unfold runFollowUps
      cases hdue : followUp.isDue satisfied wrote with
      | true => exact brings_bind hfirst hdue fun _ other => ih hrest other _
      | false =>
          obtain ⟨hsucceeds, hleaves, hmidway⟩ := ih hrest shelf report
          constructor
          · rw [affords_cons_of_idle hdue]
            exact hsucceeds
          · rw [affords_cons_of_idle hdue, effects_cons_of_idle hdue]
            exact hleaves
          · exact hmidway.mono fun _ hother => hother.imp_right fun h => h.cons_of_idle hdue

/-! ## Stages -/

theorem throughout_require {changed : Bool} {request : Request} {next : request.Answer → Talk}
    {answer : request.Answer} {after : Shelf} {holds : Shelf → Prop}
    (hreply : Shelf.answer request shelf = (.ok answer, after)) (hbefore : holds shelf)
    (hnext : Throughout offline (next answer) after holds) :
    Throughout offline (require changed request next) shelf holds := by
  have hoffline : offline.answer request shelf = (.ok answer, after) := hreply
  refine throughout_ask_iff.mpr ⟨hbefore, ?_⟩
  rw [hoffline]
  exact hnext

/-- A request that is answered comes first, and the talk goes on from where it has
left the device: as it was, or with what is written. -/
theorem brings_require {changed : Bool} {request : Request} {next : request.Answer → Talk}
    {answer : request.Answer} {after : Shelf}
    (hreply : Shelf.answer request shelf = (.ok answer, after))
    (hafter : after.snapshot = shelf.snapshot ∨ after.snapshot = written)
    (h : pass.Brings want followUps satisfied wrote written (next answer) after) :
    pass.Brings want followUps satisfied wrote written (require changed request next) shelf := by
  obtain ⟨hsucceeds, hleaves, hmidway⟩ := h
  have hends : ((require changed request next).run offline shelf).ends =
      ((next answer).run offline after).ends := by
    simp only [require, run, offline, hreply, Run.ends_after]
  obtain ⟨hresult, hstate⟩ := Prod.mk.inj hends
  refine ⟨hresult ▸ hsucceeds, hstate ▸ hleaves, throughout_require hreply (Or.inl rfl) ?_⟩
  refine hmidway.mono fun other hother => ?_
  rcases hother with hsame | hunderway
  · rcases hafter with hkept | hwritten
    · exact Or.inl (hsame.trans hkept)
    · rw [hsame, hwritten]
      exact Or.inr (underway_start _ _)
  · exact Or.inr hunderway

/-- Where nothing is written and no follow-up is due, nothing happens. -/
theorem brings_succeed (h : ∀ followUp ∈ followUps, followUp.isDue satisfied wrote = false) :
    pass.Brings want followUps satisfied wrote shelf.snapshot (succeed report) shelf where
  succeeds_iff := iff_of_true ⟨report, rfl⟩ (Or.inr h)
  leaves := fun _ => (FollowUp.effectAll_of_idle h).symm
  midway := throughout_done (Or.inl rfl)

section Prompt

variable (h : pass.Prompt)
include h

theorem Prompt.brings_followUp {observed : Condition} (hwritten : shelf.snapshot = written) :
    pass.Brings want (pass.kind.followUpsOf pass.target) (pass.target.satisfiedBy observed) wrote
      written (pass.followUp want observed wrote report) shelf := by
  subst hwritten
  exact brings_runFollowUps h.followUps shelf report

/-- Over a stored resource a pass writes what differs, if anything, and then runs the
follow-ups that are due. -/
theorem Prompt.brings_converge (hraw : shelf.snapshot.get? pass.key.display = some raw) :
    pass.Brings want (pass.kind.followUpsOf pass.target)
      (pass.target.satisfiedBy (pass.kind.observe (pass.kind.read raw) want)) (!changes.isEmpty)
      (pass.afterUpdate raw changes shelf.snapshot)
      (pass.converge want (pass.kind.read raw) changes) shelf := by
  unfold converge afterUpdate
  simp only [flagsOfUpdate_of_flagless h.flagless, h.live, Option.isSome_none, Bool.or_false,
    Bool.false_eq_true, if_false]
  cases hempty : changes.isEmpty with
  | true =>
      cases hdue : pass.followUpsDue (pass.kind.observe (pass.kind.read raw) want) with
      | false => exact brings_succeed (isDue_eq_false hdue)
      | true => exact h.brings_followUp rfl
  | false =>
      have hreply : Shelf.answer (.update pass.key ((pass.kind.write changes).update
            ((pass.flagsOfUpdate (pass.kind.observe (pass.kind.read raw) want)).getD .empty)))
          shelf = (.ok (), { shelf with
            snapshot := shelf.snapshot.insert pass.key.display
              (raw.update (pass.kind.write changes)) }) := by
        simp only [Shelf.answer, hraw, flagsOfUpdate_of_flagless h.flagless]
        rfl
      exact brings_require hreply (Or.inr rfl) (h.brings_followUp rfl)

/-- Where there is no resource, a pass creates it and then runs the follow-ups that
are due. -/
theorem Prompt.brings_create {creation : Attributes}
    (hcreation : pass.kind.creation want = .ok creation)
    (hnone : shelf.snapshot.get? pass.key.display = none) :
    pass.Brings want (pass.kind.followUpsOf pass.target)
      (pass.target.satisfiedBy (pass.kind.observe creation want)) true
      (shelf.snapshot.insert pass.key.display (pass.creationBody creation))
      (pass.create want) shelf := by
  have hflags : pass.flagsAfterCreation = none := by rw [flagsAfterCreation, h.flagless]
  simp only [create, hcreation, obtain, h.live, Bool.false_eq_true, if_false, hflags]
  have hreply : Shelf.answer (.create pass.key (pass.creationBody creation)) shelf =
      (.ok (), { shelf with
        snapshot := shelf.snapshot.insert pass.key.display (pass.creationBody creation) }) := by
    simp only [Shelf.answer, hnone]
    rfl
  exact brings_require hreply (Or.inr rfl) (h.brings_followUp rfl)

theorem Prompt.brings_update (hraw : shelf.snapshot.get? pass.key.display = some raw)
    (hchanges : pass.kind.changes want (pass.kind.read raw) = .ok changes) :
    pass.Brings want (pass.kind.followUpsOf pass.target)
      (pass.target.satisfiedBy (pass.kind.observe (pass.kind.read raw) want)) (!changes.isEmpty)
      (pass.afterUpdate raw changes shelf.snapshot)
      (pass.update want) shelf := by
  have hreply : Shelf.answer (.read pass.key) shelf = (.ok raw, shelf) := by
    simp only [Shelf.answer, hraw]
  refine brings_require hreply (Or.inl rfl) ?_
  dsimp only
  rw [hchanges]
  exact h.brings_converge hraw

section Kept

variable (hwant : pass.kind.want pass.key.partition params pass.target = .ok want)
  (htarget : pass.target ≠ .absent)
include hwant htarget

/-- A pass over a stored resource, from its first request on. -/
theorem Prompt.brings_of_stored (hraw : shelf.snapshot.get? pass.key.display = some raw)
    (hchanges : pass.kind.changes want (pass.kind.read raw) = .ok changes) :
    pass.Brings want (pass.kind.followUpsOf pass.target)
      (pass.target.satisfiedBy (pass.kind.observe (pass.kind.read raw) want)) (!changes.isEmpty)
      (pass.afterUpdate raw changes shelf.snapshot)
      (pass.reconcile params) shelf := by
  have hproceed : pass.proceed want true = pass.update want := by
    rw [proceed, if_neg htarget, if_pos rfl]
  unfold reconcile
  rw [hwant]
  dsimp only [obtain]
  split
  · rw [hproceed]
    exact h.brings_update hraw hchanges
  · have hreply : Shelf.answer (.lookUp pass.key) shelf = (.ok true, shelf) := by
      simp only [Shelf.answer, hraw, Option.isSome_some]
    refine brings_require hreply (Or.inl rfl) ?_
    rw [hproceed]
    exact h.brings_update hraw hchanges

/-- A pass over a missing resource, from its first request on. -/
theorem Prompt.brings_of_missing (hsingleton : pass.kind.singleton = false)
    (hmissing : pass.kind.missing = none) {creation : Attributes}
    (hcreation : pass.kind.creation want = .ok creation)
    (hnone : shelf.snapshot.get? pass.key.display = none) :
    pass.Brings want (pass.kind.followUpsOf pass.target)
      (pass.target.satisfiedBy (pass.kind.observe creation want)) true
      (shelf.snapshot.insert pass.key.display (pass.creationBody creation))
      (pass.reconcile params) shelf := by
  have hreply : Shelf.answer (.lookUp pass.key) shelf = (.ok false, shelf) := by
    simp only [Shelf.answer, hnone, Option.isSome_none]
  unfold reconcile
  rw [hwant, hsingleton]
  refine brings_require hreply (Or.inl rfl) ?_
  rw [proceed, if_neg htarget, if_neg Bool.false_ne_true, hmissing]
  exact h.brings_create hcreation hnone

end Kept

end Prompt

/-! ## Starting over -/

/-- Cut off after any of its requests and started over with what is left behind, a
talk succeeds and ends with the snapshot that it would have ended with. -/
def Resumes (talk : Talk) (shelf : Shelf) : Prop :=
  Throughout offline talk shelf fun cut => ∀ again : Shelf, again.snapshot = cut.snapshot →
    (∃ report, (talk.run offline again).result = some (.ok report)) ∧
      (talk.run offline again).state.snapshot = (talk.run offline shelf).state.snapshot

/-- A stored resource, with all but the rest of its follow-ups behind it, is one that
a second pass can go on from. -/
structure Resumable (pass : Pass) (want : Attributes) (satisfied wrote : Bool)
    (rest : List FollowUp) (stored : Attributes) : Prop where
  /-- Nothing is left to change. -/
  settled : pass.kind.schema.Settled pass.kind.updatable pass.kind.dependencies want
    (pass.kind.read stored)
  /-- A target that was satisfied is so still. -/
  kept : satisfied = true →
    pass.target.satisfiedBy (pass.kind.observe (pass.kind.read stored) want) = true
  /-- The follow-ups that are due now leave what the rest would have left. -/
  resumed : pass.leaves want
      (pass.target.satisfiedBy (pass.kind.observe (pass.kind.read stored) want)) false stored =
    FollowUp.leaveAll satisfied wrote (pass.kind.write want) rest stored

/-- A resource as a pass has written it stays resumable, whichever follow-up is
the next. -/
def StaysResumable (pass : Pass) (want : Attributes) (satisfied wrote : Bool)
    (stored : Attributes) : Prop :=
  ∀ past rest, pass.kind.followUpsOf pass.target = past ++ rest →
    pass.Resumable want satisfied wrote rest
      (FollowUp.leaveAll satisfied wrote (pass.kind.write want) past stored)

/-! ## Written resources -/

section Written

variable {stored : Attributes} {observed : Condition}

/-- Where no follow-up has run yet, a second pass runs them all, provided that it makes
no difference to them that it has not written itself. -/
theorem Written.resumable (h : pass.Written want stored observed) (wrote : Bool)
    (hsame : pass.leaves want (pass.target.satisfiedBy observed) false stored =
      pass.leaves want (pass.target.satisfiedBy observed) wrote stored) :
    pass.Resumable want (pass.target.satisfiedBy observed) wrote
      (pass.kind.followUpsOf pass.target) stored where
  settled := h.settled
  kept := by
    rw [h.observed_eq]
    exact id
  resumed := by
    rw [h.observed_eq]
    exact hsame

/-- Where all follow-ups have run, a second pass has nothing to do for a resource that
needs nothing more. -/
theorem Finished.resumable (h : pass.Finished want stored) :
    pass.Resumable want false wrote [] stored where
  settled := h.settled
  kept := nofun
  resumed := leaves_of_idle h.followedUp want stored

/-- A written resource that its follow-ups leave as it is stays resumable where none
of them is due for it. -/
theorem Written.staysResumable (h : pass.Written want stored observed)
    (hdue : pass.followUpsDue observed = false)
    (hidle : ∀ followUp ∈ pass.kind.followUpsOf pass.target,
      followUp.isDue (pass.target.satisfiedBy observed) wrote = true →
        followUp.leaves (pass.kind.write want) stored = stored) :
    pass.StaysResumable want (pass.target.satisfiedBy observed) wrote stored := by
  intro past rest hsplit
  rw [hsplit] at hidle
  obtain ⟨hpast, hrest⟩ := List.forall_mem_append.mp hidle
  rw [FollowUp.leaveAll_of_unaltered hpast]
  refine ⟨h.settled, fun hsatisfied => h.observed_eq ▸ hsatisfied, ?_⟩
  rw [h.observed_eq, leaves_of_idle hdue, FollowUp.leaveAll_of_unaltered hrest]

/-- A written resource stays resumable where it satisfies the target, if its follow-ups
are due only where it does not. -/
theorem Written.staysResumable_of_satisfied (h : pass.Written want stored observed)
    (hsatisfied : pass.target.satisfiedBy observed = true)
    (htriggers : ∀ followUp ∈ pass.kind.followUpsOf pass.target,
      followUp.trigger = .unsatisfied) :
    pass.StaysResumable want (pass.target.satisfiedBy observed) wrote stored := by
  refine h.staysResumable (followUpsDue_of_satisfied hsatisfied) fun followUp hmem hdue => ?_
  rw [FollowUp.isDue, htriggers followUp hmem, hsatisfied] at hdue
  cases hdue

end Written

/-! ## Second passes -/

section Again

variable {rest : List FollowUp} {stored : Attributes} {again : Shelf}

/-- What a pass could afford, the one that goes on from a resumable resource can. -/
theorem Resumable.affords (h : pass.Resumable want satisfied wrote rest stored)
    (hafford : pass.Affords followUps satisfied wrote) :
    pass.Affords followUps
      (pass.target.satisfiedBy (pass.kind.observe (pass.kind.read stored) want)) false := by
  refine hafford.imp_right fun hidle followUp hmem => ?_
  have hpast := hidle followUp hmem
  cases htrigger : followUp.trigger with
  | unsatisfied =>
      rw [FollowUp.isDue, htrigger] at hpast ⊢
      have hsatisfied : satisfied = true := by simpa using hpast
      rw [h.kept hsatisfied]
      rfl
  | afterWrite =>
      rw [FollowUp.isDue, htrigger]

/-- Where a pass has written what it brings, it starts over from there: nothing is
written any more, and what is left to follow up is followed up. -/
theorem Prompt.resumes_of_resumable (h : pass.Prompt)
    (hwant : pass.kind.want pass.key.partition params pass.target = .ok want)
    (htarget : pass.target ≠ .absent)
    (hafford : pass.Affords (pass.kind.followUpsOf pass.target) satisfied wrote)
    (hrest : ∀ followUp ∈ rest, followUp.Prompt pass.key.kind)
    (hstored : again.snapshot.get? pass.key.display = some stored)
    (hkeeps : again.snapshot.Keeps pass.key.display)
    (hresumable : pass.Resumable want satisfied wrote rest stored) :
    (∃ report, ((pass.reconcile params).run offline again).result = some (.ok report)) ∧
      ((pass.reconcile params).run offline again).state.snapshot =
        pass.effects want satisfied wrote rest again.snapshot := by
  have hunchanged : pass.kind.changes want (pass.kind.read stored) = .ok .empty :=
    Schema.changes_eq_empty_iff.mpr hresumable.settled
  obtain ⟨hsucceeds, hleaves, -⟩ := h.brings_of_stored hwant htarget hstored hunchanged
  have haffordAgain := hresumable.affords hafford
  refine ⟨hsucceeds.mpr haffordAgain, ?_⟩
  calc ((pass.reconcile params).run offline again).state.snapshot
    _ = pass.effects want
          (pass.target.satisfiedBy (pass.kind.observe (pass.kind.read stored) want)) false
          (pass.kind.followUpsOf pass.target) again.snapshot := hleaves haffordAgain
    _ = again.snapshot.insert pass.key.display (pass.leaves want
          (pass.target.satisfiedBy (pass.kind.observe (pass.kind.read stored) want)) false
          stored) := FollowUp.effectAll_of_keeps h.followUps hstored hkeeps
    _ = again.snapshot.insert pass.key.display
          (FollowUp.leaveAll satisfied wrote (pass.kind.write want) rest stored) := by
        rw [hresumable.resumed]
    _ = pass.effects want satisfied wrote rest again.snapshot :=
        (FollowUp.effectAll_of_keeps hrest hstored hkeeps).symm

/-- A pass is resumed, provided that it brings what it brings from wherever its
snapshot is found, and that what it writes stays resumable. -/
theorem Prompt.resumes_of_brings (h : pass.Prompt)
    (hwant : pass.kind.want pass.key.partition params pass.target = .ok want)
    (htarget : pass.target ≠ .absent)
    (hbrings : ∀ other : Shelf, other.snapshot = shelf.snapshot →
      pass.Brings want (pass.kind.followUpsOf pass.target) satisfied wrote written
        (pass.reconcile params) other)
    (hstored : written.get? pass.key.display = some raw)
    (hkeeps : written = shelf.snapshot ∨ written.Keeps pass.key.display)
    (hresumable : pass.StaysResumable want satisfied wrote raw)
    (hok : ((pass.reconcile params).run offline shelf).result = some (.ok report)) :
    Resumes (pass.reconcile params) shelf := by
  obtain ⟨hsucceeds, hleaves, hmidway⟩ := hbrings shelf rfl
  have hafford := hsucceeds.mp ⟨report, hok⟩
  -- from where it began a pass runs as it has run before
  have hstart : ∀ again : Shelf, again.snapshot = shelf.snapshot →
      (∃ report, ((pass.reconcile params).run offline again).result = some (.ok report)) ∧
        ((pass.reconcile params).run offline again).state.snapshot =
          ((pass.reconcile params).run offline shelf).state.snapshot := by
    intro again hagain
    obtain ⟨hsucceedsAgain, hleavesAgain, -⟩ := hbrings again hagain
    exact ⟨hsucceedsAgain.mpr hafford, (hleavesAgain hafford).trans (hleaves hafford).symm⟩
  refine hmidway.mono fun cut hcut again hagain => ?_
  rcases hcut with hbefore | ⟨past, rest, hsplit, hcut⟩
  · exact hstart again (hagain.trans hbefore)
  · have hprompt : ∀ followUp ∈ past ++ rest, followUp.Prompt pass.key.kind :=
      hsplit ▸ h.followUps
    obtain ⟨hpast, hrest⟩ := List.forall_mem_append.mp hprompt
    have hsnapshot := hagain.trans hcut
    obtain ⟨hmid, hplace⟩ :
        (pass.effects want satisfied wrote past written).get? pass.key.display =
            some (FollowUp.leaveAll satisfied wrote (pass.kind.write want) past raw) ∧
          (pass.effects want satisfied wrote past written = written ∨
            pass.effects want satisfied wrote past written = written.insert pass.key.display
              (FollowUp.leaveAll satisfied wrote (pass.kind.write want) past raw)) :=
      FollowUp.get?_effectAll hpast satisfied wrote _ hstored
    by_cases hsame : again.snapshot = shelf.snapshot
    · exact hstart again hsame
    · have hkeepsAgain : again.snapshot.Keeps pass.key.display := by
        rw [hsnapshot] at hsame ⊢
        rcases hplace with hunchanged | hanew
        · rw [hunchanged] at hsame ⊢
          exact hkeeps.resolve_left hsame
        · rw [hanew]
          exact Snapshot.keeps_insert _ _ _
      obtain ⟨hagainOk, hfinal⟩ := h.resumes_of_resumable hwant htarget hafford hrest
        (hsnapshot ▸ hmid) hkeepsAgain (hresumable past rest hsplit)
      refine ⟨hagainOk, ?_⟩
      rw [hfinal, hleaves hafford, hsplit, hsnapshot]
      exact (FollowUp.effectAll_append past rest written).symm

end Again

/-! ## Whole passes -/

section Ended

variable
  (hok : ((pass.reconcile params).run offline shelf).result = some (.ok report))
  (hwant : pass.kind.want pass.key.partition params pass.target = .ok want)

include hok hwant

/-- Where a pass has succeeded without a resource, the kind does not forbid that there
is none. -/
theorem missing_of_ok (htarget : pass.target ≠ .absent)
    (hnone : shelf.snapshot.get? pass.key.display = none) : pass.kind.missing = none := by
  obtain ⟨_, hsingleton, -, -⟩ := creates_of_ok hok hwant htarget hnone
  have hends := ends_reconcile_of_none hwant htarget hsingleton hnone
  cases hmissing : pass.kind.missing with
  | none => rfl
  | some reason =>
      rw [hmissing] at hends
      rw [(result_of_ends hends).1] at hok
      cases hok

/-- A pass of prompt follow-ups that keeps its resource is resumed, provided that what
it creates and what it updates stays resumable. -/
theorem Prompt.resumes_of_ok (h : pass.Prompt) (htarget : pass.target ≠ .absent)
    (hcreation : ∀ {created : Attributes}, pass.kind.singleton = false →
      pass.kind.creation want = .ok created →
        pass.StaysResumable want (pass.target.satisfiedBy (pass.kind.observe created want))
          true (pass.creationBody created))
    (hupdate : ∀ raw changes, shelf.snapshot.get? pass.key.display = some raw →
      pass.kind.changes want (pass.kind.read raw) = .ok changes →
        pass.StaysResumable want
          (pass.target.satisfiedBy (pass.kind.observe (pass.kind.read raw) want))
          (!changes.isEmpty) (raw.update (pass.kind.write changes))) :
    Resumes (pass.reconcile params) shelf := by
  cases hstored : shelf.snapshot.get? pass.key.display with
  | none =>
      have hmissing := missing_of_ok hok hwant htarget hstored
      obtain ⟨created, hsingleton, hcreated, -⟩ := creates_of_ok hok hwant htarget hstored
      have hbrings : ∀ other : Shelf, other.snapshot = shelf.snapshot →
          pass.Brings want (pass.kind.followUpsOf pass.target)
            (pass.target.satisfiedBy (pass.kind.observe created want)) true
            (shelf.snapshot.insert pass.key.display (pass.creationBody created))
            (pass.reconcile params) other := by
        intro other hother
        rw [← hother] at hstored ⊢
        exact h.brings_of_missing hwant htarget hsingleton hmissing hcreated hstored
      exact h.resumes_of_brings hwant htarget hbrings (Snapshot.get?_insert_self _ _ _)
        (Or.inr (Snapshot.keeps_insert _ _ _)) (hcreation hsingleton hcreated) hok
  | some raw =>
      obtain ⟨changes, hchanges, -⟩ := converges_of_ok hok hwant htarget hstored
      have hbrings : ∀ other : Shelf, other.snapshot = shelf.snapshot →
          pass.Brings want (pass.kind.followUpsOf pass.target)
            (pass.target.satisfiedBy (pass.kind.observe (pass.kind.read raw) want))
            (!changes.isEmpty) (pass.afterUpdate raw changes shelf.snapshot)
            (pass.reconcile params) other := by
        intro other hother
        rw [← hother] at hstored ⊢
        exact h.brings_of_stored hwant htarget hstored hchanges
      refine h.resumes_of_brings hwant htarget hbrings ?_ ?_ (hupdate raw changes hstored hchanges)
        hok
      · unfold afterUpdate
        split
        · rename_i hempty
          rw [hstored, Attributes.eq_empty_of_isEmpty hempty, h.writesNothing]
          rfl
        · exact Snapshot.get?_insert_self _ _ _
      · unfold afterUpdate
        split
        · exact Or.inl rfl
        · exact Or.inr (Snapshot.keeps_insert _ _ _)

end Ended

/-- A pass that finds a resource to remove deletes it, and looks whether it is gone. -/
theorem ends_reconcile_of_removal (hlive : pass.checkOnly = false)
    (hwant : pass.kind.want pass.key.partition params pass.target = .ok want)
    (htarget : pass.target = .absent)
    (hraw : shelf.snapshot.get? pass.key.display = some raw) :
    ((pass.reconcile params).run offline shelf).ends =
      if ((shelf.snapshot.erase pass.key.display).get? pass.key.display).isSome then
        (some (.error ⟨false, .fatal "failed to delete resource"⟩),
          { shelf with snapshot := shelf.snapshot.erase pass.key.display })
      else
        (some (.ok ⟨true, .empty⟩),
          { shelf with snapshot := shelf.snapshot.erase pass.key.display }) := by
  have hends := ends_reconcile_of_absent shelf hwant htarget
  rw [if_neg (by simp [hraw])] at hends
  rw [hends, remove, if_neg (by simp [hlive]), ends_delete_of_some _ hraw, ends_lookUp]
  split
  · rfl
  · rfl

/-- On its way a pass that removes a resource has deleted it or not. -/
theorem throughout_of_absent (hlive : pass.checkOnly = false)
    (hwant : pass.kind.want pass.key.partition params pass.target = .ok want)
    (hsingleton : pass.kind.singleton = false) (htarget : pass.target = .absent) :
    Throughout offline (pass.reconcile params) shelf fun other =>
      other.snapshot = shelf.snapshot ∨
        (shelf.snapshot.get? pass.key.display).isSome = true ∧
          other.snapshot = shelf.snapshot.erase pass.key.display := by
  unfold reconcile
  rw [hwant, hsingleton]
  have hlookUp : ∀ other : Shelf, Shelf.answer (.lookUp pass.key) other =
      (.ok (other.snapshot.get? pass.key.display).isSome, other) := fun _ => rfl
  refine throughout_require (hlookUp shelf) (Or.inl rfl) ?_
  rw [proceed, if_pos htarget]
  cases hraw : shelf.snapshot.get? pass.key.display with
  | none => exact throughout_done (Or.inl rfl)
  | some raw =>
      have hreply : Shelf.answer (.delete pass.key) shelf = (.ok (),
          { shelf with snapshot := shelf.snapshot.erase pass.key.display }) := by
        simp only [Shelf.answer, hraw, Option.isSome_some, if_true]
      rw [Option.isSome_some, if_pos rfl, remove, hlive, if_neg Bool.false_ne_true]
      refine throughout_require hreply (Or.inl rfl) ?_
      refine throughout_require (hlookUp _) (Or.inr ⟨rfl, rfl⟩) ?_
      split
      · exact throughout_done (Or.inr ⟨rfl, rfl⟩)
      · exact throughout_done (Or.inr ⟨rfl, rfl⟩)

/-- A pass that removes a resource is resumed: it removes it, or finds it gone. -/
theorem resumes_of_absent (hlive : pass.checkOnly = false)
    (hwant : pass.kind.want pass.key.partition params pass.target = .ok want)
    (hsingleton : pass.kind.singleton = false) (htarget : pass.target = .absent)
    (hok : ((pass.reconcile params).run offline shelf).result = some (.ok report)) :
    Resumes (pass.reconcile params) shelf := by
  have hgone := gone_of_ok hlive hok htarget
  -- where there is none, there is nothing to do
  have hquiet : ∀ again : Shelf, again.snapshot.get? pass.key.display = none →
      (∃ report, ((pass.reconcile params).run offline again).result = some (.ok report)) ∧
        ((pass.reconcile params).run offline again).state.snapshot = again.snapshot := by
    intro again hnone
    obtain ⟨report, hresult, -, hsame⟩ := quiet_of_absent hwant hsingleton htarget hnone
    exact ⟨⟨report, hresult⟩, hsame⟩
  refine (throughout_of_absent hlive hwant hsingleton htarget).mono fun cut hcut => ?_
  intro again hagain
  cases hraw : shelf.snapshot.get? pass.key.display with
  | none =>
      have hkept : again.snapshot = shelf.snapshot := by
        rcases hcut with hcut | ⟨hfound, -⟩
        · exact hagain.trans hcut
        · rw [hraw] at hfound
          cases hfound
      obtain ⟨hresult, hsame⟩ := hquiet again (hkept ▸ hraw)
      exact ⟨hresult, by rw [hsame, (hquiet shelf hraw).2, hkept]⟩
  | some raw =>
      have hends := ends_reconcile_of_removal hlive hwant htarget hraw
      have hafter : ((pass.reconcile params).run offline shelf).state.snapshot =
          shelf.snapshot.erase pass.key.display := by
        split at hends
        · rw [(result_of_ends hends).2]
        · rw [(result_of_ends hends).2]
      rw [hafter] at hgone ⊢
      rcases hcut with hbefore | ⟨-, herased⟩
      · rw [hbefore] at hagain
        rw [← hagain] at hraw hgone ⊢
        have hendsAgain := ends_reconcile_of_removal hlive hwant htarget hraw
        rw [hgone, if_neg (by simp)] at hendsAgain
        obtain ⟨hresult, hstate⟩ := result_of_ends hendsAgain
        exact ⟨⟨_, hresult⟩, by rw [hstate]⟩
      · rw [herased] at hagain
        rw [← hagain] at hgone ⊢
        exact hquiet again hgone

end Pass

namespace Plan

open Device Pass

variable {order : WorkOrder} {patience : Nat} {shelf : Shelf} {report : Report}

/-- Cut off after any of its requests and carried out again on any device with the
snapshot that was left behind, a work order succeeds and ends with the snapshot that it
would have ended with. -/
def Resumes (order : WorkOrder) (patience : Nat) (shelf : Shelf) : Prop :=
  ∀ (count : Nat) (again : Shelf),
    again.snapshot =
        (offline.after ((run order patience shelf).requests.take count) shelf).snapshot →
      (∃ report, (run order patience again).result = some (.ok report)) ∧
        (run order patience again).state.snapshot = (run order patience shelf).state.snapshot

/-- A work order is resumed, provided that what passes of its kind write stays
resumable. -/
theorem resumes_of_staysResumable {kind : ResourceKind}
    (hkind : ∀ pass, passOf order patience = .ok pass → pass.kind = kind)
    (hprompt : kind.Prompt order.target) (hlive : order.checkOnly = false)
    (hok : (run order patience shelf).result = some (.ok report))
    (hcreation : ∀ {pass : Pass} {want created : Attributes}, pass.kind = kind →
      pass.target ≠ .absent → kind.Accepts pass.key.partition order.params pass.target want →
        kind.singleton = false → kind.creation want = .ok created →
          pass.StaysResumable want (pass.target.satisfiedBy (kind.observe created want)) true
            (pass.creationBody created))
    (hupdate : ∀ {pass : Pass} {want raw changes : Attributes}, pass.kind = kind →
      pass.target ≠ .absent → kind.Accepts pass.key.partition order.params pass.target want →
        shelf.snapshot.get? pass.key.display = some raw →
          kind.changes want (kind.read raw) = .ok changes →
            pass.StaysResumable want
              (pass.target.satisfiedBy (kind.observe (kind.read raw) want)) (!changes.isEmpty)
              (raw.update (kind.write changes))) :
    Resumes order patience shelf := by
  obtain ⟨pass, hpass⟩ := passOf_of_ok hok
  obtain rfl := hkind pass hpass
  have hpassPrompt := prompt_of_passOf hpass hprompt hlive
  rw [run_of_passOf hpass] at hok
  obtain ⟨want, hwant⟩ := want_of_ok hok
  have haccepts := ResourceKind.accepts_of_want hwant
  have hresumes : Pass.Resumes (pass.reconcile order.params) shelf := by
    by_cases htarget : pass.target = .absent
    · have hremovable := removable_of_want hprompt.kept hwant htarget
      exact resumes_of_absent hpassPrompt.live hwant hremovable htarget hok
    · exact hpassPrompt.resumes_of_ok hok hwant htarget (hcreation rfl htarget haccepts)
        fun _ _ hraw => hupdate rfl htarget haccepts hraw
  unfold Resumes
  simp only [run_of_passOf hpass]
  exact hresumes

end Plan
end DesiredState
