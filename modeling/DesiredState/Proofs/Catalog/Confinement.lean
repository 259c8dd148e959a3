import DesiredState.Plan
import DesiredState.Proofs.Catalog.Kinds
import DesiredState.Proofs.Pass.Confinement
import DesiredState.Proofs.Pass.Repetition

/-!
# Work orders that touch nothing else

Every kind of the catalogue is confined: the only follow-up that polls for a
reboot is that of boot volumes, and it is watched by the path of the volume.
So a work order changes the resource of its own key and no other, however it
ends (`run_touches_own_key`).
-/

namespace DesiredState

namespace Catalog

/-- Only boot volumes are rebooted into, and their reboots are watched. -/
theorem reboots_watched (entry : Entry) (target : Target) :
    ∀ followUp ∈ entry.followUps target, followUp.job = .awaitReboot →
      followUp.mode = .watch ∧ entry = .volume := by
  cases entry <;> cases target <;> decide

/-- Every kind of the catalogue is confined. -/
theorem confined_of_kindOf {entry : Entry} {selector : Selector} {kind : ResourceKind}
    (h : kindOf entry selector = .ok kind) : kind.Confined := by
  intro target followUp hfollowUp hjob
  rw [followUpsOf_of_kindOf h] at hfollowUp
  obtain ⟨hwatched, rfl⟩ := reboots_watched entry target followUp hfollowUp hjob
  obtain rfl := Except.ok.inj h
  exact ⟨hwatched, rfl⟩

end Catalog

namespace Plan

open Device

/-- A run leaves the resources in the order of their keys. -/
theorem ordered_run {shelf : Shelf} (h : shelf.snapshot.Ordered) (order : WorkOrder)
    (patience : Nat) : (run order patience shelf).state.snapshot.Ordered := by
  rw [run, Conversation.state_run]
  exact Shelf.ordered_after h _

/-- However a work order ends, the resources under the keys other than its own are the
same as before, and there are no more of them; one that the catalogue does not know
changes nothing at all. -/
theorem run_touches_own_key (order : WorkOrder) (patience : Nat) (shelf : Shelf) :
    match passOf order patience with
    | .ok pass =>
        (run order patience shelf).state.snapshot.others pass.key.display =
          shelf.snapshot.others pass.key.display
    | .error _ => (run order patience shelf).state.snapshot = shelf.snapshot := by
  cases hpass : passOf order patience with
  | ok pass =>
      obtain ⟨entry, -, hkind, -⟩ := passOf_eq_ok hpass
      rw [run_of_passOf hpass]
      exact Pass.others_run (Catalog.confined_of_kindOf hkind) (named_of_passOf hpass) shelf
  | error fault =>
      unfold run talk
      rw [hpass]
      rfl

end Plan
end DesiredState
