import DesiredState.Proofs.Catalog.Repetition
import DesiredState.Proofs.Pass.Resumption

/-!
# Going on with a work order that was cut off

Policies, boot volumes and provisioning entries are brought to their target in
several steps, and a work order for one of them may be cut off between any two.

* A policy that was written but not applied is applied the second time; one that
  was applied is found active.
* A volume that was installed but not rebooted into is installed once more, which
  makes no difference, and is then rebooted into — unless it was active before, as
  then a reboot makes no difference either.
* A provisioning entry whose level was written is not waited for any more, and a
  wait leaves nothing behind.

So the second pass ends with the snapshot that the first one would have ended with.
-/

namespace DesiredState
namespace Catalog

open Pass

variable {pass : Pass} {want stored payload : Attributes} {observed : Condition}
  {partition : String} {params : Attributes}

/-! ## Policies -/

namespace Policy

variable {generation : Generation}

/-- A written policy stays resumable, before it is applied and after it. -/
theorem staysResumable (hkind : pass.kind = kind generation)
    (haccepts : (kind generation).Accepts partition params pass.target want)
    (htarget : pass.target ≠ .absent) (h : pass.Written want stored observed) (wrote : Bool) :
    pass.StaysResumable want (pass.target.satisfiedBy observed) wrote stored := by
  have hfollowUps := followUpsOf_eq generation pass.target
  rw [← hkind] at hfollowUps
  rcases present_or_activated haccepts htarget with hpresent | hactivated
  · rw [if_neg (by simp [hpresent])] at hfollowUps
    refine h.staysResumable (followUpsDue_of_jobless hfollowUps _) ?_
    rw [hfollowUps]
    exact List.forall_mem_nil _
  · rw [if_pos hactivated] at hfollowUps
    cases hsatisfied : pass.target.satisfiedBy observed with
    | true =>
        rw [← hsatisfied]
        refine h.staysResumable_of_satisfied hsatisfied ?_
        rw [hfollowUps]
        exact List.forall_mem_singleton.mpr rfl
    | false =>
        intro past rest hsplit
        rw [hfollowUps] at hsplit
        rcases List.singleton_eq_append_iff.mp hsplit with ⟨rfl, rfl⟩ | ⟨rfl, rfl⟩
        · -- it is not applied yet
          have hresumable := h.resumable wrote (by simp only [leaves_eq hkind])
          rwa [hfollowUps, hsatisfied] at hresumable
        · -- it is applied
          refine ((written_applied hkind haccepts h).finished
            (followUpsDue_of_satisfied ?_)).resumable
          rw [hactivated]
          rfl

end Policy

/-! ## Boot volumes -/

namespace Volume

/-- A volume that is complete and shows what would be taken over is left as it is. -/
theorem installed_of_shown (hcomplete : stored.get? "status" = some (.text "complete"))
    (hshown : ∀ name ∈ ["version", "build"], ∀ value, payload.get? name = some value →
      stored.get? name = some value) :
    Device.Shelf.installed payload stored = stored := by
  have htakeOver : ∀ name ∈ ["version", "build"], takeOver payload stored name = stored := by
    intro name hname
    unfold takeOver
    split
    · rename_i value hvalue
      exact Attributes.insert_of_get? (hshown name hname value hvalue)
    · rfl
  rw [installed_eq, Attributes.insert_of_get? hcomplete, List.foldl_cons,
    htakeOver "version" (by simp), List.foldl_cons, htakeOver "build" (by simp)]
  rfl

/-- Installing twice is installing once. -/
theorem installed_installed (payload stored : Attributes) :
    Device.Shelf.installed payload (Device.Shelf.installed payload stored) =
      Device.Shelf.installed payload stored := by
  refine installed_of_shown ?_ fun name hname value hvalue => ?_
  · rw [installed_eq, get?_foldl_takeOver, if_neg (by decide), Attributes.get?_insert_self]
  · rw [installed_eq, get?_foldl_takeOver, if_pos hname, hvalue]
    rfl

section Work

variable (hkind : pass.kind = kind) (haccepts : kind.Accepts partition params pass.target want)

include hkind haccepts

/-- A volume that is installed but not rebooted into is resumable. -/
theorem resumable_installed (hstored : stored.Distinct) (htarget : pass.target = .activated)
    (wrote : Bool) :
    pass.Resumable want false wrote [reboot]
      (Device.Shelf.installed (kind.write want) stored) := by
  obtain ⟨-, hsettled, hobserved⟩ := written_installed hkind haccepts hstored
  refine ⟨hsettled, nofun, ?_⟩
  rw [hobserved, leaves_eq hkind (Or.inr htarget), if_pos htarget, installed_installed, htarget]
  change _ = (Device.Shelf.installed (kind.write want) stored).insert "active" (.flag true)
  cases hactive : (Device.Shelf.installed (kind.write want) stored).flag? "active" == some true with
  | true =>
      -- it was active before, and is taken to be rebooted into already
      have hshown := Attributes.flag?_eq_some_iff.mp (beq_iff_eq.mp hactive)
      exact (Attributes.insert_of_get? hshown).symm
  | false => rfl

/-- A written volume stays resumable, before it is installed, between its installation
and its reboot, and after both. -/
theorem staysResumable (h : pass.Written want stored observed) (wrote : Bool) :
    pass.StaysResumable want (pass.target.satisfiedBy observed) wrote stored := by
  have htarget := installed_or_activated haccepts
  have hbefore := h.resumable wrote (by simp only [leaves_eq hkind htarget])
  cases hsatisfied : pass.target.satisfiedBy observed with
  | true =>
      rw [← hsatisfied]
      refine h.staysResumable_of_satisfied hsatisfied ?_
      rw [hkind]
      rcases htarget with hinstall | hactivate
      · rw [hinstall]
        decide
      · rw [hactivate]
        decide
  | false =>
      rw [hsatisfied] at hbefore
      intro past rest hsplit
      rcases htarget with hinstall | hactivate
      · have hfollowUps : pass.kind.followUpsOf pass.target = [install] := by
          rw [hkind, hinstall]
          rfl
        rw [hfollowUps] at hsplit hbefore
        rcases List.singleton_eq_append_iff.mp hsplit with ⟨rfl, rfl⟩ | ⟨rfl, rfl⟩
        · exact hbefore
        · rw [hkind]
          exact (finished_installed hkind haccepts h.distinct hinstall).resumable
      · have hfollowUps : pass.kind.followUpsOf pass.target = [install, reboot] := by
          rw [hkind, hactivate]
          rfl
        rw [hfollowUps] at hsplit hbefore
        rcases List.cons_eq_append_iff.mp hsplit with ⟨rfl, rfl⟩ | ⟨past, rfl, hlater⟩
        · exact hbefore
        · rw [hkind]
          rcases List.singleton_eq_append_iff.mp hlater with ⟨rfl, rfl⟩ | ⟨rfl, rfl⟩
          · exact resumable_installed hkind haccepts h.distinct hactivate wrote
          · exact (finished_rebooted hkind haccepts h.distinct hactivate).resumable

end Work

end Volume

/-! ## Provisioning entries -/

namespace Provisioning

/-- An entry whose level was written stays resumable. -/
theorem staysResumable (hkind : pass.kind = kind)
    (haccepts : kind.Accepts partition params pass.target want)
    (h : pass.Written want stored observed) (wrote : Bool) :
    pass.StaysResumable want (pass.target.satisfiedBy observed) wrote stored := by
  have htarget : pass.target = .present := List.mem_singleton.mp haccepts.target_mem
  refine h.staysResumable (followUpsDue_eq hkind htarget observed) ?_
  rw [hkind, htarget]
  exact List.forall_mem_singleton.mpr fun _ => rfl

end Provisioning

/-! ## Work orders -/

variable {order : WorkOrder} {patience : Nat} {shelf : Device.Shelf} {report : Report}

/-- A live work order for a policy, a boot volume or a provisioning entry that would
succeed is resumed, wherever it was cut off. -/
theorem jobs_resume {entry : Entry} (hentry : Entry.ofName order.entry = .ok entry)
    (hprompt : entry = .policy ∨ entry = .volume ∨ entry = .provisioning)
    (hlive : order.checkOnly = false) (hformed : shelf.snapshot.WellFormed)
    (hok : (Plan.run order patience shelf).result = some (.ok report)) :
    Plan.Resumes order patience shelf := by
  rcases hprompt with rfl | rfl | rfl
  · obtain ⟨generation, hkindOf⟩ := Policy.exists_generation hentry hok
    refine Plan.resumes_of_staysResumable (fun _ => Plan.kind_of_passOf hentry hkindOf)
      (Policy.prompt generation order.target) hlive hok ?_ ?_
    · intro pass want created hkind htarget haccepts _ hcreated
      exact Policy.staysResumable hkind haccepts htarget
        (Policy.written_created hkind haccepts hcreated) _
    · intro pass want raw changes hkind htarget haccepts hraw hchanges
      exact Policy.staysResumable hkind haccepts htarget
        (Policy.written_updated hkind haccepts (hformed.get? hraw).distinct hchanges) _
  · refine Plan.resumes_of_staysResumable (fun _ => Plan.kind_of_passOf hentry rfl)
      (Volume.prompt order.target) hlive hok ?_ ?_
    · intro pass want created hkind _ haccepts _ hcreated
      exact Volume.staysResumable hkind haccepts (Volume.written_created hkind hcreated) _
    · intro pass want raw changes hkind _ haccepts hraw hchanges
      exact Volume.staysResumable hkind haccepts
        (Volume.written_updated hkind (hformed.get? hraw).distinct hchanges) _
  · refine Plan.resumes_of_staysResumable (fun _ => Plan.kind_of_passOf hentry rfl)
      (Provisioning.prompt order.target) hlive hok ?_ ?_
    · intro pass want created _ _ _ hsingleton
      cases hsingleton
    · intro pass want raw changes hkind _ haccepts hraw hchanges
      exact Provisioning.staysResumable hkind haccepts
        (Provisioning.written_updated hkind haccepts (hformed.get? hraw).distinct hchanges) _

/-- Cut off after its third request, the renewal of a volume has installed the new release
but has not rebooted into it; it is resumed from there, as from everywhere else. -/
theorem renewed_resumes :
    (∃ report, (Plan.run renewed 1 agedShelf).result = some (.ok report)) ∧
      ((Device.offline.after ((Plan.run renewed 1 agedShelf).requests.take 3)
        agedShelf).snapshot.get? "sys/software/volume:/Common/HD1.2").map
          (fun volume => (volume.text? "version", volume.flag? "active")) =
        some (some "15.1.0", some false) ∧
      Plan.Resumes renewed 1 agedShelf := by
  obtain ⟨report, hok⟩ : ∃ report, (Plan.run renewed 1 agedShelf).result =
      some (.ok report) := Pass.exists_report_of_succeeds (by decide +kernel)
  have hformed : agedShelf.snapshot.WellFormed := by decide
  exact ⟨⟨report, hok⟩, by decide +kernel,
    jobs_resume rfl (Or.inr (Or.inl rfl)) rfl hformed hok⟩

end Catalog
end DesiredState
