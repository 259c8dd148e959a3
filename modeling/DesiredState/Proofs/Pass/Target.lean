import DesiredState.Proofs.Pass.Flags
import DesiredState.Proofs.Pass.Jobs

/-!
# Reaching a target

A pass does not look at its resource again after it has written it.  Whether it
has reached its target is therefore a question about what it left behind: is the
condition that would be observed there one that satisfies the target?

* `Pass.Arrived` — no flag is left to set on a stored resource, and no follow-up
  is due for it;
* `ResourceKind.Pursues` — a kind has a means to bring its resources to a target:
  to create them, to set flags, or to follow up until the target is satisfied;
* `Pass.Arrived.satisfied` — a resource that has arrived satisfies a target that
  its kind pursues.

That what a pass leaves behind has arrived is shown kind by kind.
-/

namespace DesiredState

/-- Ways in which a kind brings its resources to a target. -/
inductive ResourceKind.Pursues (kind : ResourceKind) : Target → Prop
  /-- To be there is enough, as no stored resource is observed as absent. -/
  | present (seen : ∀ held want, kind.observe held want ≠ .absent) : kind.Pursues .present
  /-- There are flags for the target. -/
  | flagged {target : Target} {flags : FlagPair} (flags_eq : kind.flags = some flags)
      (asked : target.enabledFlag.isSome = true) : kind.Pursues target
  /-- A follow-up is due until the target is satisfied. -/
  | followed {target : Target} {followUp : FollowUp}
      (declared : followUp ∈ kind.followUpsOf target)
      (triggered : followUp.trigger = .unsatisfied) : kind.Pursues target

namespace Pass

open Device

variable {pass : Pass} {params want stored : Attributes} {shelf : Shelf} {report : Report}

/-- A stored resource on which no flag is left to set, and for which no follow-up
is due. -/
structure Arrived (pass : Pass) (want stored : Attributes) : Prop where
  /-- No flag is left to set. -/
  unflagged : pass.flagsOfUpdate (pass.kind.observe (pass.kind.read stored) want) = none
  /-- No follow-up is due. -/
  followedUp : pass.followUpsDue (pass.kind.observe (pass.kind.read stored) want) = false

/-- A snapshot is as the target of a pass asks for: without the resource, or with
one that is observed in a condition which satisfies the target. -/
structure Reached (pass : Pass) (want : Attributes) (snapshot : Snapshot) : Prop where
  gone : pass.target = .absent → snapshot.get? pass.key.display = none
  satisfied : pass.target ≠ .absent → ∃ stored, snapshot.get? pass.key.display = some stored ∧
    pass.target.satisfiedBy (pass.kind.observe (pass.kind.read stored) want) = true

/-- A resource that has arrived satisfies a target that its kind pursues. -/
theorem Arrived.satisfied (h : pass.Arrived want stored)
    (hpursues : pass.kind.Pursues pass.target) :
    pass.target.satisfiedBy (pass.kind.observe (pass.kind.read stored) want) = true := by
  obtain ⟨hunflagged, hfollowedUp⟩ := h
  generalize hobserved : pass.kind.observe (pass.kind.read stored) want = observed at *
  generalize htarget : pass.target = target at hpursues
  cases hpursues with
  | present seen =>
      have hseen : observed ≠ .absent := hobserved ▸ seen (pass.kind.read stored) want
      simpa [Target.satisfiedBy] using hseen
  | flagged flags_eq asked =>
      -- flags that the target asks for are left to set until it is satisfied
      obtain ⟨on, hon⟩ := Option.isSome_iff_exists.mp asked
      cases hsatisfied : target.satisfiedBy observed with
      | true => rfl
      | false =>
          simp [flagsOfUpdate, flags_eq, htarget, hsatisfied, FlagPair.forTarget, hon]
            at hunflagged
  | followed declared triggered =>
      rw [← htarget] at declared ⊢
      have hidle := List.any_eq_false.mp hfollowedUp _ declared
      simpa [triggered] using hidle

/-- Without flags a resource that needs nothing more has arrived. -/
theorem Finished.arrived (h : pass.Finished want stored) (hflagless : pass.kind.flags = none) :
    pass.Arrived want stored where
  unflagged := flagsOfUpdate_of_flagless hflagless _
  followedUp := h.followedUp

/-- Without flags and follow-ups every resource has arrived. -/
theorem Direct.arrived (h : pass.Direct) (hflagless : pass.kind.flags = none)
    (want stored : Attributes) : pass.Arrived want stored where
  unflagged := flagsOfUpdate_of_flagless hflagless _
  followedUp := h.followUpsDue_eq _

/-- What a pass that takes no job leaves behind has arrived, provided that what it
creates and what it updates has. -/
theorem Direct.arrived_of_ok (h : pass.Direct)
    (hok : ((pass.reconcile params).run offline shelf).result = some (.ok report))
    (hwant : pass.kind.want pass.key.partition params pass.target = .ok want)
    (htarget : pass.target ≠ .absent)
    (hcreation : ∀ creation, pass.kind.creation want = .ok creation →
      pass.Arrived want (pass.creationBody creation))
    (hupdate : ∀ raw changes, shelf.snapshot.get? pass.key.display = some raw →
      pass.kind.changes want (pass.kind.read raw) = .ok changes →
        pass.Arrived want (raw.update (pass.updateBody want (pass.kind.read raw) changes))) :
    ∃ stored, ((pass.reconcile params).run offline shelf).state.snapshot.get?
        pass.key.display = some stored ∧ pass.Arrived want stored := by
  cases hstored : shelf.snapshot.get? pass.key.display with
  | none =>
      obtain ⟨creation, -, hcreated, hafter⟩ := h.created_of_ok hok hwant htarget hstored
      exact ⟨_, hafter, hcreation creation hcreated⟩
  | some raw =>
      obtain ⟨changes, hchanges, hafter⟩ := h.updated_of_ok hok hwant htarget hstored
      exact ⟨_, hafter, hupdate raw changes hstored hchanges⟩

/-- A live pass that succeeds has reached its target, provided that what it leaves
behind of a resource that it keeps has arrived. -/
theorem reached_of_arrived (hlive : pass.checkOnly = false)
    (hpursues : pass.target ≠ .absent → pass.kind.Pursues pass.target)
    (hok : ((pass.reconcile params).run offline shelf).result = some (.ok report))
    (harrived : pass.target ≠ .absent → ∃ stored,
      ((pass.reconcile params).run offline shelf).state.snapshot.get? pass.key.display =
        some stored ∧ pass.Arrived want stored) :
    pass.Reached want ((pass.reconcile params).run offline shelf).state.snapshot where
  gone := gone_of_ok hlive hok
  satisfied := by
    intro htarget
    obtain ⟨stored, hafter, hstored⟩ := harrived htarget
    exact ⟨stored, hafter, hstored.satisfied (hpursues htarget)⟩

end Pass
end DesiredState
