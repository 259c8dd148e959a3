import DesiredState.Proofs.Catalog.Policy
import DesiredState.Proofs.Catalog.Volume
import DesiredState.Proofs.WellFormed

/-!
# Repeating a work order that takes jobs

Policies, boot volumes and provisioning entries are brought to their target by
jobs, and an archive that is only to be present takes none.  Each of their
observers recognises what the jobs left behind, so all of these work orders are
repeated quietly.  Archives that are to be installed are not spoken of here: a
restore leaves nothing that could be recognised.
-/

namespace DesiredState
namespace Catalog

/-! ## Provisioning entries -/

namespace Provisioning

variable {pass : Pass} {want raw changes stored : Attributes}

theorem verbatim : kind.Verbatim where
  unaliased := rfl
  read := rfl
  writes := fun _ hbody => hbody
  declared := by decide
  judged := by decide

theorem prompt (target : Target) : kind.Prompt target where
  flagless := rfl
  writesNothing := rfl
  kept := fun _ => rfl
  followUps := by
    intro followUp hfollowUp
    cases target with
    | present =>
        obtain rfl := List.mem_singleton.mp hfollowUp
        exact ⟨⟨rfl, Nat.le_refl 1⟩, by decide, by decide, by decide⟩
    | _ => cases hfollowUp

/-- Settling leaves the entry as it is. -/
theorem leaves_eq (hkind : pass.kind = kind) (htarget : pass.target = .present)
    (satisfied wrote : Bool) : pass.leaves want satisfied wrote stored = stored := by
  rw [Pass.leaves, hkind, htarget]
  cases wrote <;> rfl

/-- Settling is due after a write only. -/
theorem followUpsDue_eq (hkind : pass.kind = kind) (htarget : pass.target = .present)
    (observed : Condition) : pass.followUpsDue observed = false := by
  rw [Pass.followUpsDue, hkind, htarget]
  rfl

section Work

variable {partition : String} {params : Attributes} (hkind : pass.kind = kind)
  (haccepts : kind.Accepts partition params pass.target want) (hraw : raw.Distinct)
  (hchanges : kind.changes want (kind.read raw) = .ok changes)

include hkind haccepts hraw hchanges

theorem written_updated :
    pass.Written want (raw.update (kind.write changes)) (kind.observe (kind.read raw) want) := by
  have hupdated := hraw.update (kind.write changes)
  refine ⟨hupdated, ?_, ?_⟩
  · rw [hkind]
    refine ⟨List.forall_mem_nil _, List.forall_mem_singleton.mpr ?_⟩
    exact verbatim.quiet_updated haccepts List.mem_cons_self List.mem_cons_self
      (fun _ => rfl) hraw hchanges hupdated rfl
  · rw [hkind]
    rfl

/-- An entry whose level was written needs nothing more. -/
theorem finished_updated :
    pass.Finished want (pass.leaves want
      (pass.target.satisfiedBy (kind.observe (kind.read raw) want))
      (!changes.isEmpty) (raw.update (kind.write changes))) := by
  have htarget : pass.target = .present := List.mem_singleton.mp haccepts.target_mem
  rw [leaves_eq hkind htarget]
  exact (written_updated hkind haccepts hraw hchanges).finished (followUpsDue_eq hkind htarget _)

end Work

end Provisioning

/-! ## Archives -/

namespace Archive

variable {pass : Pass}

theorem followUpsOf_eq_nil {target : Target} (htarget : target ≠ .installed) :
    kind.followUpsOf target = [] := by
  cases target with
  | installed => exact absurd rfl htarget
  | _ => rfl

theorem prompt {target : Target} (htarget : target ≠ .installed) : kind.Prompt target where
  flagless := rfl
  writesNothing := rfl
  kept := fun hsingleton => nomatch hsingleton
  followUps := by
    rw [followUpsOf_eq_nil htarget]
    exact List.forall_mem_nil _

/-- An archive that is only to be present needs nothing more once it is. -/
theorem finished (hkind : pass.kind = kind) (htarget : pass.target ≠ .installed)
    (want stored : Attributes) : pass.Finished want stored := by
  constructor
  · rw [hkind]
    exact Schema.settled_of_nothing_updatable _ _ _
  · refine Pass.followUpsDue_of_jobless ?_ _
    rw [hkind]
    exact followUpsOf_eq_nil htarget

end Archive

/-! ## Work orders -/

variable {order : WorkOrder} {patience : Nat} {shelf : Device.Shelf} {report : Report}

/-- A work order for a policy that is carried out is one for some generation. -/
theorem Policy.exists_generation (hentry : Entry.ofName order.entry = .ok .policy)
    (hok : (Plan.run order patience shelf).result = some (.ok report)) :
    ∃ generation, kindOf .policy order.selector = .ok (Policy.kind generation) := by
  obtain ⟨pass, hpass⟩ := Plan.passOf_of_ok hok
  obtain ⟨found, hfound, hkindOf, -⟩ := Plan.passOf_eq_ok hpass
  obtain rfl := Except.ok.inj (hfound.symm.trans hentry)
  obtain ⟨generation, -, hkind⟩ := bind_eq_ok_iff.mp hkindOf
  exact ⟨generation, hkindOf.trans hkind.symm⟩

/-- A policy of either generation is repeated quietly. -/
theorem Policy.repeats (hentry : Entry.ofName order.entry = .ok .policy)
    (hlive : order.checkOnly = false) (hformed : shelf.snapshot.WellFormed)
    (hok : (Plan.run order patience shelf).result = some (.ok report)) :
    Plan.Repeats order patience shelf := by
  obtain ⟨generation, hkindOf⟩ := Policy.exists_generation hentry hok
  refine Plan.repeats_of_finished (fun _ => Plan.kind_of_passOf hentry hkindOf)
    (Policy.prompt generation order.target) hlive hok ?_ ?_
  · intro pass want created hkind _ htarget haccepts _ hcreated
    exact Policy.finished_created hkind haccepts htarget hcreated
  · intro pass want raw changes hkind _ htarget haccepts hraw hchanges
    exact Policy.finished_updated hkind haccepts htarget (hformed.get? hraw).distinct hchanges

/-- A work order for a policy, a boot volume or a provisioning entry, or for an
archive that is not to be installed, is repeated quietly once it succeeds. -/
theorem jobs_repeat {entry : Entry} (hentry : Entry.ofName order.entry = .ok entry)
    (hprompt : entry = .policy ∨ entry = .volume ∨ entry = .provisioning ∨
      (entry = .archive ∧ order.target ≠ .installed))
    (hlive : order.checkOnly = false) (hformed : shelf.snapshot.WellFormed)
    (hok : (Plan.run order patience shelf).result = some (.ok report)) :
    Plan.Repeats order patience shelf := by
  rcases hprompt with rfl | rfl | rfl | ⟨rfl, harchive⟩
  · exact Policy.repeats hentry hlive hformed hok
  · refine Plan.repeats_of_finished (fun _ => Plan.kind_of_passOf hentry rfl)
      (Volume.prompt order.target) hlive hok ?_ ?_
    · intro pass want created hkind _ _ haccepts _ hcreated
      exact Volume.finished_created hkind haccepts hcreated
    · intro pass want raw changes hkind _ _ haccepts hraw hchanges
      exact Volume.finished_updated hkind haccepts (hformed.get? hraw).distinct hchanges
  · refine Plan.repeats_of_finished (fun _ => Plan.kind_of_passOf hentry rfl)
      (Provisioning.prompt order.target) hlive hok ?_ ?_
    · intro pass want created _ _ _ _ hsingleton
      cases hsingleton
    · intro pass want raw changes hkind _ _ haccepts hraw hchanges
      exact Provisioning.finished_updated hkind haccepts (hformed.get? hraw).distinct hchanges
  · refine Plan.repeats_of_finished (fun _ => Plan.kind_of_passOf hentry rfl)
      (Archive.prompt harchive) hlive hok ?_ ?_
    · intro pass want created hkind hsame _ _ _ _
      exact Archive.finished hkind (hsame ▸ harchive) _ _
    · intro pass want raw changes hkind hsame _ _ _ _
      exact Archive.finished hkind (hsame ▸ harchive) _ _

/-- A device with a volume that holds an older release. -/
def agedShelf : Device.Shelf :=
  ⟨⟨[("sys/software/volume:/Common/HD1.2",
    ⟨[("active", .flag false), ("status", .text "complete"), ("version", .text "14.1.0")]⟩)]⟩,
    []⟩

/-- Asks for the volume to be active with a newer release. -/
def renewed : WorkOrder where
  entry := Entry.volume.name
  name := some "HD1.2"
  target := .activated
  params := ⟨[("image", .text "release-15.1.0.iso"), ("version", .text "15.1.0")]⟩

/-- The volume is installed and rebooted into, and that once only. -/
theorem renewed_repeats :
    (∃ report, (Plan.run renewed 1 agedShelf).result = some (.ok report)) ∧
      Pass.idle (Plan.run renewed 1 agedShelf) = false ∧
        Plan.Repeats renewed 1 agedShelf := by
  obtain ⟨report, hok⟩ : ∃ report, (Plan.run renewed 1 agedShelf).result =
      some (.ok report) := Pass.exists_report_of_succeeds (by decide +kernel)
  have hformed : agedShelf.snapshot.WellFormed := by decide
  exact ⟨⟨report, hok⟩, by decide +kernel,
    jobs_repeat rfl (Or.inr (Or.inl rfl)) rfl hformed hok⟩

end Catalog
end DesiredState
