import DesiredState.Catalog
import DesiredState.Proofs.Except

/-!
# The kinds of the catalogue

An entry has one kind of resource, or one for each of its varieties.  What is shown for
these holds of every kind that the catalogue gives (`forall_kindOf`).

Which follow-ups a kind takes is told by its entry and the target alone
(`followUpsOf_of_kindOf`), so that what is said of all of them can be looked up in the
table `Entry.followUps`.
-/

namespace DesiredState
namespace Catalog

variable {entry : Entry} {selector : Selector} {kind : ResourceKind}

/-- Every kind of the catalogue is one of these. -/
@[elab_as_elim]
theorem forall_kindOf {holds : Entry → ResourceKind → Prop}
    (h : kindOf entry selector = .ok kind) (natPool : holds .natPool NatPool.kind)
    (logEndpoint : ∀ variety, holds .logEndpoint (LogEndpoint.kind variety))
    (globals : holds .globals Globals.kind) (virtual : holds .virtual Virtual.kind)
    (policy : ∀ generation, holds .policy (Policy.kind generation))
    (volume : holds .volume Volume.kind) (archive : holds .archive Archive.kind)
    (provisioning : holds .provisioning Provisioning.kind) : holds entry kind := by
  cases entry with
  | natPool | globals | virtual | volume | archive | provisioning =>
      obtain rfl := Except.ok.inj h
      assumption
  | logEndpoint =>
      unfold kindOf at h
      dsimp only at h
      split at h
      · obtain ⟨variety, -, hkind⟩ := bind_eq_ok_iff.mp h
        obtain rfl := Except.ok.inj hkind
        exact logEndpoint variety
      · cases h
  | policy =>
      obtain ⟨generation, -, hkind⟩ := bind_eq_ok_iff.mp h
      obtain rfl := Except.ok.inj hkind
      exact policy generation

/-- The follow-ups that the kinds of an entry take toward a target. -/
def Entry.followUps : Entry → Target → List FollowUp
  | .natPool | .logEndpoint | .globals | .virtual => fun _ => []
  | .policy => (Policy.kind .first).followUpsOf
  | .volume => Volume.kind.followUpsOf
  | .archive => Archive.kind.followUpsOf
  | .provisioning => Provisioning.kind.followUpsOf

/-- What selects a kind within its entry makes no difference to the follow-ups. -/
theorem followUpsOf_of_kindOf (h : kindOf entry selector = .ok kind) :
    kind.followUpsOf = entry.followUps :=
  forall_kindOf h rfl (fun _ => rfl) rfl rfl (fun _ => rfl) rfl rfl rfl

end Catalog
end DesiredState
