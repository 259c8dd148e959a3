import DesiredState.Proofs.Catalog.Globals.Frame
import DesiredState.Proofs.Catalog.NatPool.Frame

/-!
# What a work order leaves alone

A change set is flat, but what is sent of it is nested, and the device replaces
a nested map as a whole.  So a work order for NAT pools or for the global
settings may well change what an attribute shows that is not in its change set.
It does so exactly where the attribute is disturbed.
-/

namespace DesiredState

namespace Pass

open Device

variable {pass : Pass} {params want held changes raw : Attributes} {shelf : Shelf}

/-- A dry run over a resource that is there leaves the device as it is. -/
theorem state_converge_of_checkOnly (h : pass.checkOnly = true) :
    ((pass.converge want held changes).run offline shelf).state = shelf := by
  unfold converge
  simp only [h, if_true]
  split
  · rfl
  · rfl

end Pass

namespace Plan

open Device Pass

variable {order : WorkOrder} {patience : Nat} {shelf : Shelf} {report : Report}
  {pass : Pass} {raw : Attributes}

/-- After a work order that succeeds over a stored resource, the resource is
stored with the update, or as it was if the order is a dry run. -/
theorem stored_of_ok (hpass : passOf order patience = .ok pass)
    (himmediate : pass.kind.Immediate) (htarget : pass.target ≠ .absent)
    (hraw : shelf.snapshot.get? pass.key.display = some raw)
    (hok : (run order patience shelf).result = some (.ok report)) :
    ∃ want changes,
      pass.kind.want pass.key.partition order.params pass.target = .ok want ∧
        pass.kind.changes want (pass.kind.read raw) = .ok changes ∧
          (run order patience shelf).state.snapshot.get? pass.key.display =
            some (if order.checkOnly then raw
              else raw.update (pass.updateBody want (pass.kind.read raw) changes)) := by
  obtain ⟨-, -, -, hcheck⟩ := passOf_eq_ok hpass
  rw [run_of_passOf hpass] at hok ⊢
  obtain ⟨want, hwant⟩ := want_of_ok hok
  cases hdry : order.checkOnly with
  | false =>
      have hdirect := direct_of_kind rfl himmediate (hcheck.trans hdry)
      obtain ⟨changes, hchanges, hafter⟩ := hdirect.updated_of_ok hok hwant htarget hraw
      exact ⟨want, changes, hwant, hchanges, hafter⟩
  | true =>
      obtain ⟨changes, hchanges, hends⟩ := converges_of_ok hok hwant htarget hraw
      have hstate := (Prod.mk.inj hends).2.trans
        (state_converge_of_checkOnly (hcheck.trans hdry))
      exact ⟨want, changes, hwant, hchanges, by rw [hstate]; exact hraw⟩

end Plan

namespace Catalog

/-- The groups of an entry that keeps attributes in nested maps. -/
def Entry.groups : Entry → List Group
  | .natPool => NatPool.groups
  | .globals => Globals.groups
  | _ => []

variable {order : WorkOrder} {patience : Nat} {shelf : Device.Shelf} {report : Report}
  {entry : Entry} {pass : Pass} {params want raw changes : Attributes} {name : String}

/-- An attribute of which no view is sent is shown as before an update exactly
when it is undisturbed. -/
theorem get?_read_unsent_iff (hgrouped : entry = .natPool ∨ entry = .globals)
    (hkind : kindOf entry order.selector = .ok pass.kind)
    (haccepts : pass.kind.Accepts pass.key.partition params pass.target want)
    (hraw : raw.Distinct) (hchanges : pass.kind.changes want (pass.kind.read raw) = .ok changes)
    (hname : name ∈ pass.kind.schema.names)
    (hunsent : ∀ view ∈ Globals.views name, view ∉ changes.names) :
    (pass.kind.read (raw.update
        (pass.updateBody want (pass.kind.read raw) changes))).get? name =
          (pass.kind.read raw).get? name ↔
      Group.Undisturbed pass.kind entry.groups raw changes name := by
  rcases hgrouped with rfl | rfl
  · have heq : pass.kind = NatPool.kind := (Except.ok.inj hkind).symm
    rw [heq] at haccepts hchanges hname ⊢
    exact NatPool.get?_read_unsent_iff heq haccepts hraw hchanges hname
      (hunsent name (Globals.mem_views name))
  · have heq : pass.kind = Globals.kind := (Except.ok.inj hkind).symm
    rw [heq] at haccepts hchanges hname ⊢
    exact Globals.get?_read_unsent_iff heq haccepts hraw hchanges hname hunsent

/-- A work order for NAT pools or for the global settings that succeeds over a
stored resource leaves an attribute alone of which it sends no view, exactly
when it is a dry run or the attribute is undisturbed. -/
theorem unsent_shown_iff (hentry : Entry.ofName order.entry = .ok entry)
    (hgrouped : entry = .natPool ∨ entry = .globals) (hpresent : order.target = .present)
    (hformed : shelf.snapshot.WellFormed)
    (hok : (Plan.run order patience shelf).result = some (.ok report))
    (hpass : Plan.passOf order patience = .ok pass)
    (hraw : shelf.snapshot.get? pass.key.display = some raw) :
    ∃ want changes after,
      pass.kind.want pass.key.partition order.params pass.target = .ok want ∧
        pass.kind.changes want (pass.kind.read raw) = .ok changes ∧
          (Plan.run order patience shelf).state.snapshot.get? pass.key.display = some after ∧
            ∀ name ∈ pass.kind.schema.names,
              (∀ view ∈ Globals.views name, view ∉ changes.names) →
                ((pass.kind.read after).get? name = (pass.kind.read raw).get? name ↔
                  (order.checkOnly = false →
                    Group.Undisturbed pass.kind entry.groups raw changes name)) := by
  obtain ⟨found, hfound, hkind, -⟩ := Plan.passOf_eq_ok hpass
  obtain rfl := Except.ok.inj (hfound.symm.trans hentry)
  have himmediate : pass.kind.Immediate := by
    rcases hgrouped with rfl | rfl
    · exact Except.ok.inj hkind ▸ NatPool.immediate
    · exact Except.ok.inj hkind ▸ Globals.immediate
  have htarget : pass.target ≠ .absent := by
    rw [Plan.target_of_passOf hpass, hpresent]
    exact nofun
  obtain ⟨want, changes, hwant, hchanges, hafter⟩ :=
    Plan.stored_of_ok hpass himmediate htarget hraw hok
  refine ⟨want, changes, _, hwant, hchanges, hafter, fun name hname hunsent => ?_⟩
  cases order.checkOnly with
  | true => exact iff_of_true rfl nofun
  | false =>
      simp only [Bool.false_eq_true, if_false, true_imp_iff]
      exact get?_read_unsent_iff hgrouped hkind (ResourceKind.accepts_of_want hwant)
        (hformed.get? hraw).distinct hchanges hname hunsent

namespace NatPool

/-- Asks for another range only. -/
def widened : WorkOrder :=
  { retimed with params := ⟨[("port_range_high", .int 4000)]⟩ }

/-- The pass of both orders, which differ in their parameters only. -/
def stickyPass : Pass where
  kind := kind
  key := ⟨"ltm/lsn-pool", "Common", "lsn1"⟩
  target := .present
  patience := 0

/-- The pool as it is stored. -/
def stickyPool : Attributes := ⟨[
  ("persistence", .nested [("mode", .text "address"), ("timeout", .int 100)]),
  (rangeWire, .text "2000-3000")]⟩

theorem get?_stickyShelf :
    stickyShelf.snapshot.get? stickyPass.key.display = some stickyPool :=
  rfl

/-- Another range leaves the persistence mode alone. -/
theorem widened_keeps_mode :
    ∃ after, (Plan.run widened 0 stickyShelf).state.snapshot.get? stickyPass.key.display =
        some after ∧
      (kind.read after).get? "persistence_mode" =
        (kind.read stickyPool).get? "persistence_mode" := by
  obtain ⟨report, hok⟩ : ∃ report, (Plan.run widened 0 stickyShelf).result =
      some (.ok report) := Pass.exists_report_of_succeeds (by decide +kernel)
  have hpass : Plan.passOf widened 0 = .ok stickyPass := rfl
  obtain ⟨want, changes, after, hwant, hchanges, hafter, hshown⟩ :=
    unsent_shown_iff rfl (Or.inl rfl) rfl wellFormed_stickyShelf hok hpass get?_stickyShelf
  have hsent : ∀ want, kind.want "Common" widened.params .present = .ok want →
      ∀ changes, kind.changes want (kind.read stickyPool) = .ok changes →
        (∀ view ∈ Globals.views "persistence_mode", view ∉ changes.names) ∧
          ∀ group ∈ groups, "persistence_mode" ∈ group.members.map Prod.fst →
            group.sends changes = false := by
    decide +kernel
  obtain ⟨hunsent, hgroups⟩ := hsent want hwant changes hchanges
  refine ⟨after, hafter, (hshown _ (by decide) hunsent).mpr fun _ => ⟨?_, nofun⟩⟩
  intro group hgroup hmember hsends
  rw [hgroups group hgroup hmember] at hsends
  cases hsends

/-- Another timeout, sent without the persistence mode, takes the mode away. -/
theorem retimed_loses_mode :
    ∃ report want changes after,
      (Plan.run retimed 0 stickyShelf).result = some (.ok report) ∧
        kind.want "Common" retimed.params .present = .ok want ∧
          kind.changes want (kind.read stickyPool) = .ok changes ∧
            "persistence_mode" ∉ changes.names ∧
              (Plan.run retimed 0 stickyShelf).state.snapshot.get? stickyPass.key.display =
                  some after ∧
                (kind.read stickyPool).contains "persistence_mode" = true ∧
                  (kind.read after).contains "persistence_mode" = false := by
  obtain ⟨report, hok⟩ : ∃ report, (Plan.run retimed 0 stickyShelf).result =
      some (.ok report) := Pass.exists_report_of_succeeds (by decide +kernel)
  have hpass : Plan.passOf retimed 0 = .ok stickyPass := rfl
  obtain ⟨want, changes, hwant, hchanges, hafter⟩ :=
    Plan.stored_of_ok hpass immediate (by decide) get?_stickyShelf hok
  have hunsent : ∀ want, kind.want "Common" retimed.params .present = .ok want →
      ∀ changes, kind.changes want (kind.read stickyPool) = .ok changes →
        "persistence_mode" ∉ changes.names := by
    decide +kernel
  have hlost : ∀ after, (Plan.run retimed 0 stickyShelf).state.snapshot.get?
      stickyPass.key.display = some after →
        (kind.read after).contains "persistence_mode" = false := by
    decide +kernel
  exact ⟨report, want, changes, _, hok, hwant, hchanges, hunsent want hwant changes hchanges,
    hafter, by decide +kernel, hlost _ hafter⟩

end NatPool
end Catalog
end DesiredState
