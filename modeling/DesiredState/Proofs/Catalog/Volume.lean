import DesiredState.Proofs.Pass.Verbatim

/-!
# Repeating a work order for a boot volume

Nothing of a volume may be updated: all that a pass does to one that is there
is left to its jobs.  An installation takes the wanted version and build over
from its payload, the reboot makes the volume active, and the observer looks at
nothing else.
-/

namespace DesiredState
namespace Catalog
namespace Volume

variable {pass : Pass} {want held raw changes created stored payload : Attributes}
  {name : String}

/-- Only jobs change a volume that is there. -/
theorem changes_eq (want held : Attributes) : kind.changes want held = .ok .empty :=
  rfl

theorem verbatim : kind.Verbatim where
  unaliased := rfl
  read := rfl
  writes := fun _ hbody => hbody
  declared := by decide
  judged := by decide

theorem prompt (target : Target) : kind.Prompt target where
  flagless := rfl
  writesNothing := rfl
  kept := fun hsingleton => nomatch hsingleton
  followUps := by
    have hinstall : install.Prompt kindName :=
      ⟨⟨rfl, Nat.le_refl 1⟩, by decide, by decide, by decide⟩
    have hreboot : reboot.Prompt kindName :=
      ⟨⟨rfl, Nat.le_refl 1⟩, by decide, by decide, fun _ => rfl⟩
    intro followUp hfollowUp
    cases target with
    | installed =>
        obtain rfl := List.mem_singleton.mp hfollowUp
        exact hinstall
    | activated =>
        rcases List.mem_cons.mp hfollowUp with rfl | hlater
        · exact hinstall
        · obtain rfl := List.mem_singleton.mp hlater
          exact hreboot
    | _ => cases hfollowUp

/-! ## Installation -/

/-- The map with one name taken over from a payload that has it. -/
def takeOver (payload set : Attributes) (name : String) : Attributes :=
  match payload.get? name with
  | some value => set.insert name value
  | none => set

theorem installed_eq (payload volume : Attributes) :
    Device.Shelf.installed payload volume =
      ["version", "build"].foldl (takeOver payload)
        (volume.insert "status" (.text "complete")) :=
  rfl

theorem get?_foldl_takeOver (names : List String) (set : Attributes) (name : String) :
    (names.foldl (takeOver payload) set).get? name =
      if name ∈ names then (payload.get? name).or (set.get? name) else set.get? name := by
  induction names generalizing set with
  | nil => rfl
  | cons first rest ih =>
      have hstep : (takeOver payload set first).get? name =
          if name = first then (payload.get? name).or (set.get? name) else set.get? name := by
        unfold takeOver
        by_cases hfirst : name = first
        · subst hfirst
          cases hgiven : payload.get? name with
          | none => simp
          | some value => simp
        · cases hgiven : payload.get? first with
          | none => simp [hfirst]
          | some value => simp [hfirst, Attributes.get?_insert_of_ne _ hfirst]
      rw [List.foldl_cons, ih, hstep]
      by_cases hfirst : name = first
      · subst hfirst
        cases payload.get? name <;> simp
      · simp [hfirst]

theorem distinct_installed (hstored : stored.Distinct) (payload : Attributes) :
    (Device.Shelf.installed payload stored).Distinct := by
  rw [installed_eq]
  have hfold : ∀ (names : List String) (set : Attributes), set.Distinct →
      (names.foldl (takeOver payload) set).Distinct := by
    intro names
    induction names with
    | nil => exact fun _ hset => hset
    | cons first rest ih =>
        intro set hset
        refine ih _ ?_
        unfold takeOver
        split
        · exact hset.insert _ _
        · exact hset
  exact hfold _ _ (hstored.insert _ _)

/-! ## Conditions -/

/-- A volume that is complete and has the wanted version and build is at least
installed. -/
theorem observe_of_complete (hfits : ∀ name ∈ ["version", "build"], fits held want name = true)
    (hcomplete : held.text? "status" = some "complete") :
    observe held want =
      if held.flag? "active" == some true then .activated else .installed := by
  unfold observe
  rw [hfits "version" (by simp), hfits "build" (by simp), hcomplete]
  rfl

theorem field?_of_fitted :
    ∀ name ∈ ["version", "build"], schema.field? name = some (Field.text name) := by
  decide

/-- A volume that shows what an installation left is complete and fits what is
wanted. -/
theorem observe_of_installed {partition : String} {params : Attributes} {target : Target}
    (haccepts : kind.Accepts partition params target want) (hstored : stored.Distinct)
    (hleft : ∀ name ∈ ["status", "version", "build"], stored.get? name =
      (Device.Shelf.installed (kind.write want) raw).get? name) :
    kind.observe (kind.read stored) want =
      if stored.flag? "active" == some true then .activated else .installed := by
  have hactive : (kind.read stored).flag? "active" = stored.flag? "active" :=
    verbatim.flag?_read hstored (by decide)
  change observe (kind.read stored) want = _
  rw [observe_of_complete ?_ ?_, hactive]
  · intro name hname
    have hdeclared := field?_of_fitted name hname
    unfold fits
    split
    · rename_i wanted hwanted
      -- the payload of an installation is all that is wanted
      have hpayload : (kind.write want).get? name = some (.text wanted) := by
        rw [verbatim.get?_write (Schema.distinct_of_want haccepts.normal)]
        exact Attributes.text?_eq_some_iff.mp hwanted
      rw [beq_iff_eq, Attributes.text?_eq_some_iff, verbatim.get?_read hstored,
        hleft name (List.mem_cons_of_mem _ hname), installed_eq, get?_foldl_takeOver,
        if_pos hname, hpayload, Option.some_or, Option.map_some]
      exact congrArg some (Schema.coerced_of_holds hdeclared trivial)
    · rfl
  · rw [Attributes.text?_eq_some_iff, verbatim.get?_read hstored,
      hleft "status" List.mem_cons_self, installed_eq, get?_foldl_takeOver,
      if_neg (by decide), Attributes.get?_insert_self]
    rfl

/-! ## What a pass leaves behind -/

/-- A volume is installed where it does not satisfy the target, and rebooted
into where it is to be active. -/
theorem leaves_eq (hkind : pass.kind = kind)
    (htarget : pass.target = .installed ∨ pass.target = .activated) (satisfied wrote : Bool) :
    pass.leaves want satisfied wrote stored =
      if satisfied then
        stored
      else if pass.target = .activated then
        (Device.Shelf.installed (kind.write want) stored).insert "active" (.flag true)
      else
        Device.Shelf.installed (kind.write want) stored := by
  rw [Pass.leaves, hkind]
  rcases htarget with hinstalled | hactivated
  · rw [hinstalled]
    cases satisfied <;> rfl
  · rw [hactivated]
    cases satisfied <;> rfl

/-- Nothing is ever left to change of a volume. -/
theorem written (hkind : pass.kind = kind) (hstored : stored.Distinct) {observed : Condition}
    (hobserved : kind.observe (kind.read stored) want = observed) :
    pass.Written want stored observed := by
  refine ⟨hstored, ?_, ?_⟩
  · rw [hkind]
    exact Schema.settled_of_nothing_updatable _ _ _
  · rw [hkind]
    exact hobserved

section Work

variable {partition : String} {params : Attributes} {observed : Condition}
  (hkind : pass.kind = kind) (haccepts : kind.Accepts partition params pass.target want)

include haccepts

theorem installed_or_activated : pass.target = .installed ∨ pass.target = .activated := by
  have htargets : pass.target ∈ [.installed, .activated] := haccepts.target_mem
  simpa using htargets

include hkind

/-- A volume is at least installed once it shows what an installation leaves. -/
theorem written_installed (hstored : stored.Distinct) :
    pass.Written want (Device.Shelf.installed (kind.write want) stored)
      (if (Device.Shelf.installed (kind.write want) stored).flag? "active" == some true
        then .activated else .installed) := by
  have hinstalled := distinct_installed hstored (kind.write want)
  exact written hkind hinstalled (observe_of_installed haccepts hinstalled fun _ _ => rfl)

/-- A volume that was installed and then rebooted into is observed as activated. -/
theorem written_rebooted (hstored : stored.Distinct) :
    pass.Written want ((Device.Shelf.installed (kind.write want) stored).insert "active"
      (.flag true)) .activated := by
  have hrebooted := (distinct_installed hstored (kind.write want)).insert "active" (.flag true)
  have hactive : ((Device.Shelf.installed (kind.write want) stored).insert "active"
      (.flag true)).flag? "active" = some true := by
    rw [Attributes.flag?, Attributes.get?_insert_self]
    rfl
  refine written hkind hrebooted ?_
  rw [observe_of_installed haccepts hrebooted, hactive]
  · rfl
  · intro name hname
    refine Attributes.get?_insert_of_ne _ (fun heq => ?_) _
    rw [heq] at hname
    revert hname
    decide

/-- An installed volume that is to be installed needs nothing more. -/
theorem finished_installed (hstored : stored.Distinct) (htarget : pass.target = .installed) :
    pass.Finished want (Device.Shelf.installed (kind.write want) stored) := by
  refine (written_installed hkind haccepts hstored).finished (Pass.followUpsDue_of_satisfied ?_)
  rw [htarget]
  split
  · rfl
  · rfl

/-- A rebooted volume that is to be active needs nothing more. -/
theorem finished_rebooted (hstored : stored.Distinct) (htarget : pass.target = .activated) :
    pass.Finished want ((Device.Shelf.installed (kind.write want) stored).insert "active"
      (.flag true)) := by
  refine (written_rebooted hkind haccepts hstored).finished (Pass.followUpsDue_of_satisfied ?_)
  rw [htarget]
  rfl

/-- What the follow-ups leave of a written volume needs nothing more. -/
theorem finished_leaves (h : pass.Written want stored observed) (wrote : Bool) :
    pass.Finished want (pass.leaves want (pass.target.satisfiedBy observed) wrote stored) := by
  have htarget := installed_or_activated haccepts
  rw [leaves_eq hkind htarget]
  cases hsatisfied : pass.target.satisfiedBy observed with
  | true =>
      rw [if_pos rfl]
      exact h.finished (Pass.followUpsDue_of_satisfied hsatisfied)
  | false =>
      rw [if_neg (by simp)]
      rcases htarget with hinstall | hactivate
      · rw [if_neg (by simp [hinstall])]
        exact finished_installed hkind haccepts h.distinct hinstall
      · rw [if_pos hactivate]
        exact finished_rebooted hkind haccepts h.distinct hactivate

omit haccepts in
/-- A volume is not complete before it is installed. -/
theorem written_created (hcreated : kind.creation want = .ok created) :
    pass.Written want (pass.creationBody created) (kind.observe created want) := by
  have hflagless : pass.kind.flags = none := by rw [hkind]; rfl
  have hbody := Pass.distinct_creationBody hflagless created
  have hincomplete : ∀ held : Attributes, held.get? "status" = none →
      kind.observe held want = .presentEnabled := by
    intro held hnone
    change observe held want = .presentEnabled
    simp [observe, Attributes.text?, hnone]
  have hnone : created.get? "status" = none := by
    rw [ResourceKind.get?_of_creation hcreated]
    exact if_neg (by decide)
  refine written hkind hbody ?_
  rw [hincomplete created hnone, hincomplete]
  rw [verbatim.get?_read hbody, Pass.get?_creationBody (hkind ▸ verbatim) hflagless
    (ResourceKind.distinct_of_creation hcreated) (by decide), hkind]
  change (created.get? "status").map _ = none
  rw [hnone]
  rfl

/-- A created volume needs nothing more. -/
theorem finished_created (hcreated : kind.creation want = .ok created) :
    pass.Finished want (pass.leaves want
      (pass.target.satisfiedBy (kind.observe created want)) true
        (pass.creationBody created)) :=
  finished_leaves hkind haccepts (written_created hkind hcreated) true

omit haccepts in
/-- An update changes nothing of a volume. -/
theorem written_updated (hraw : raw.Distinct)
    (hchanges : kind.changes want (kind.read raw) = .ok changes) :
    pass.Written want (raw.update (kind.write changes))
      (kind.observe (kind.read raw) want) := by
  obtain rfl := Except.ok.inj ((changes_eq want (kind.read raw)).symm.trans hchanges)
  exact written hkind hraw rfl

/-- A volume that was there needs nothing more. -/
theorem finished_updated (hraw : raw.Distinct)
    (hchanges : kind.changes want (kind.read raw) = .ok changes) :
    pass.Finished want (pass.leaves want
      (pass.target.satisfiedBy (kind.observe (kind.read raw) want))
      (!changes.isEmpty) (raw.update (kind.write changes))) :=
  finished_leaves hkind haccepts (written_updated hkind hraw hchanges) _

end Work

end Volume
end Catalog
end DesiredState
