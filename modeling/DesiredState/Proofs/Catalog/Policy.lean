import DesiredState.Catalog.Policy
import DesiredState.Proofs.Pass.Verbatim

/-!
# Repeating a work order for a security policy

Only the description of a policy may be updated, and all that its application
leaves behind is that the policy is active.  So a policy that a pass leaves
behind has the wanted description, and is active if the target asks for it:
the policy already was, or it was applied.
-/

namespace DesiredState
namespace Catalog
namespace Policy

variable {generation : Generation} {pass : Pass}
  {want raw changes created stored : Attributes}

/-- The writer reshapes the template only. -/
theorem get?_write_of_ne {name : String} (hname : name ≠ "template") (body : Attributes) :
    (write body).get? name = body.get? name := by
  unfold write
  split
  · exact Attributes.get?_insert_of_ne _ hname _
  · rfl

theorem verbatim (generation : Generation) : (kind generation).Verbatim where
  unaliased := rfl
  read := rfl
  writes := by
    intro body hbody
    change (write body).Distinct
    unfold write
    split
    · exact hbody.insert _ _
    · exact hbody
  declared := by
    change schema.names.Nodup
    decide
  judged := by
    change ∀ field ∈ schema.fields, field.comparison.partner? = none ∧ field.Consistent
    decide

theorem followUpsOf_eq (generation : Generation) (target : Target) :
    (kind generation).followUpsOf target =
      if target = .activated then [FollowUp.submit .applyPolicy (Wait.every 1000)] else [] := by
  cases target <;> rfl

theorem prompt (generation : Generation) (target : Target) :
    (kind generation).Prompt target where
  flagless := rfl
  writesNothing := rfl
  kept := fun hsingleton => nomatch hsingleton
  followUps := by
    intro followUp hfollowUp
    rw [followUpsOf_eq] at hfollowUp
    split at hfollowUp
    · obtain rfl := List.mem_singleton.mp hfollowUp
      exact ⟨⟨rfl, Nat.le_refl 1⟩, by decide, by decide, fun h => nomatch h⟩
    · cases hfollowUp

/-- A policy is applied where it is to be active and is not. -/
theorem leaves_eq (hkind : pass.kind = kind generation) (satisfied wrote : Bool) :
    pass.leaves want satisfied wrote stored =
      if pass.target = .activated ∧ satisfied = false then
        stored.insert "active" (.flag true)
      else
        stored := by
  rw [Pass.leaves, hkind, followUpsOf_eq]
  by_cases hactivated : pass.target = .activated
  · rw [if_pos hactivated]
    cases satisfied with
    | true => rw [if_neg (by simp)]; rfl
    | false => rw [if_pos ⟨hactivated, rfl⟩]; rfl
  · rw [if_neg hactivated, if_neg (fun h => hactivated h.1)]
    rfl

/-- A policy is observed as it is stored. -/
theorem observe_read (hstored : stored.Distinct) :
    (kind generation).observe ((kind generation).read stored) want = observe stored want := by
  have hundeclared : "active" ∉ schema.names := by decide
  change observe ((kind generation).read stored) want = observe stored want
  rw [observe, observe, (verbatim generation).flag?_read hstored hundeclared]

/-- All that is observed of a policy is whether it is active. -/
theorem observe_congr {other : Attributes} (h : stored.get? "active" = other.get? "active") :
    observe stored want = observe other want := by
  rw [observe, observe, Attributes.flag?, Attributes.flag?, h]

theorem observe_applied (stored want : Attributes) :
    observe (stored.insert "active" (.flag true)) want = .activated := by
  rw [observe, Attributes.flag?, Attributes.get?_insert_self]
  rfl

theorem present_or_activated {partition : String} {params : Attributes}
    (haccepts : (kind generation).Accepts partition params pass.target want)
    (htarget : pass.target ≠ .absent) :
    pass.target = .present ∨ pass.target = .activated := by
  have htargets : pass.target ∈ [.present, .absent, .activated] := haccepts.target_mem
  simpa [htarget] using htargets

section Work

variable {partition : String} {params : Attributes} {observed : Condition}
  (hkind : pass.kind = kind generation)
  (haccepts : (kind generation).Accepts partition params pass.target want)

include hkind haccepts

/-- An applied policy is observed as activated, and its description is as it was. -/
theorem written_applied (h : pass.Written want stored observed) :
    pass.Written want (stored.insert "active" (.flag true)) .activated := by
  obtain ⟨hstored, hsettled, -⟩ := h
  have happlied := hstored.insert "active" (.flag true)
  have hverbatim := verbatim generation
  rw [hkind] at hsettled
  have hsingle := (hverbatim.ordinary haccepts List.mem_cons_self).single_comparison
  have hquiet := List.forall_mem_singleton.mp hsettled.quiet
  refine ⟨happlied, ?_, ?_⟩
  · rw [hkind]
    refine ⟨List.forall_mem_nil _, List.forall_mem_singleton.mpr ?_⟩
    refine (Schema.changesAt_eq_nil_iff hsingle).mpr fun wanted hwanted => ?_
    have hkept : ((kind generation).read (stored.insert "active" (.flag true))).get?
        "description" = ((kind generation).read stored).get? "description" := by
      rw [hverbatim.get?_read happlied, hverbatim.get?_read hstored,
        Attributes.get?_insert_of_ne _ (by decide)]
    exact hkept ▸ (Schema.changesAt_eq_nil_iff hsingle).mp hquiet wanted hwanted
  · rw [hkind, observe_read happlied]
    exact observe_applied stored want

theorem written_created (hcreated : (kind generation).creation want = .ok created) :
    pass.Written want (pass.creationBody created) ((kind generation).observe created want) := by
  have hverbatim := verbatim generation
  have hflagless : pass.kind.flags = none := by rw [hkind]; rfl
  have hbody := Pass.distinct_creationBody hflagless created
  have hstored : ∀ name, name ≠ "name" → name ≠ "template" →
      (pass.creationBody created).get? name = created.get? name := by
    intro name hname htemplate
    rw [Pass.get?_creationBody (hkind ▸ hverbatim) hflagless
      (ResourceKind.distinct_of_creation hcreated) hname, hkind]
    exact get?_write_of_ne htemplate created
  refine ⟨hbody, ?_, ?_⟩
  · rw [hkind]
    refine ⟨List.forall_mem_nil _, List.forall_mem_singleton.mpr ?_⟩
    exact hverbatim.quiet_created haccepts List.mem_cons_self rfl rfl hcreated hbody
      (hstored "description" (by decide) (by decide))
  · rw [hkind, observe_read hbody]
    exact observe_congr (hstored "active" (by decide) (by decide))

theorem written_updated (hraw : raw.Distinct)
    (hchanges : (kind generation).changes want ((kind generation).read raw) = .ok changes) :
    pass.Written want (raw.update ((kind generation).write changes))
      ((kind generation).observe ((kind generation).read raw) want) := by
  have hverbatim := verbatim generation
  have hupdated := hraw.update ((kind generation).write changes)
  refine ⟨hupdated, ?_, ?_⟩
  · rw [hkind]
    refine ⟨List.forall_mem_nil _, List.forall_mem_singleton.mpr ?_⟩
    exact hverbatim.quiet_updated haccepts List.mem_cons_self (List.mem_singleton.mpr rfl)
      (get?_write_of_ne (by decide)) hraw hchanges hupdated rfl
  · -- an update does not touch the flag
    rw [hkind, observe_read hupdated, observe_read hraw]
    refine observe_congr ?_
    rw [hverbatim.get?_updated hchanges]
    change ((write changes).get? "active").or (raw.get? "active") = raw.get? "active"
    rw [get?_write_of_ne (by decide), hverbatim.get?_changes_of_kept hchanges
      (show "active" ∉ ["description"] by decide), Option.none_or]

/-- What the follow-ups leave of a written policy needs nothing more. -/
theorem finished_leaves (htarget : pass.target = .present ∨ pass.target = .activated)
    (h : pass.Written want stored observed) (wrote : Bool) :
    pass.Finished want (pass.leaves want (pass.target.satisfiedBy observed) wrote stored) := by
  rw [leaves_eq hkind]
  rcases htarget with hpresent | hactivated
  · rw [if_neg (by simp [hpresent])]
    refine h.finished (Pass.followUpsDue_of_jobless ?_ _)
    rw [hkind, followUpsOf_eq, hpresent]
    rfl
  · cases hsatisfied : pass.target.satisfiedBy observed with
    | true =>
        rw [if_neg (by simp)]
        exact h.finished (Pass.followUpsDue_of_satisfied hsatisfied)
    | false =>
        rw [if_pos ⟨hactivated, rfl⟩]
        refine (written_applied hkind haccepts h).finished (Pass.followUpsDue_of_satisfied ?_)
        rw [hactivated]
        rfl

variable (htarget : pass.target ≠ .absent)

include htarget

/-- A created policy needs nothing more. -/
theorem finished_created (hcreated : (kind generation).creation want = .ok created) :
    pass.Finished want (pass.leaves want
      (pass.target.satisfiedBy ((kind generation).observe created want)) true
        (pass.creationBody created)) :=
  finished_leaves hkind haccepts (present_or_activated haccepts htarget)
    (written_created hkind haccepts hcreated) true

/-- An updated policy needs nothing more. -/
theorem finished_updated (hraw : raw.Distinct)
    (hchanges : (kind generation).changes want ((kind generation).read raw) = .ok changes) :
    pass.Finished want (pass.leaves want
      (pass.target.satisfiedBy
        ((kind generation).observe ((kind generation).read raw) want))
      (!changes.isEmpty) (raw.update ((kind generation).write changes))) :=
  finished_leaves hkind haccepts (present_or_activated haccepts htarget)
    (written_updated hkind haccepts hraw hchanges) _

end Work

end Policy
end Catalog
end DesiredState
