import DesiredState.Proofs.Catalog.Globals.Fields
import DesiredState.Proofs.Catalog.LogEndpoint
import DesiredState.Proofs.Catalog.NatPool.Fields
import DesiredState.Proofs.Catalog.Repetition
import DesiredState.Proofs.Catalog.Virtual.Fields
import DesiredState.Proofs.Pass.Target

/-!
# Work orders reach their targets

Every kind of the catalogue pursues each of its targets: virtual servers are
switched by flags, policies are applied, volumes and archives are installed, and
for the rest it is enough to be there.  What a work order that succeeds leaves
behind has arrived, so the target is reached; flags that contradict each other
are no obstacle, as they are set together.

Archives that are to be installed are the exception.  A restore is followed up
and succeeds, but leaves nothing that could be observed.
-/

namespace DesiredState
namespace Catalog

open Pass

variable {order : WorkOrder} {patience : Nat} {shelf : Device.Shelf} {report : Report}
  {pass : Pass} {want : Attributes}

/-! ## Means -/

/-- A flag pair shows a resource as enabled or as disabled. -/
theorem observe_flags_ne_absent (flags : FlagPair) (held : Attributes) :
    flags.observe held ≠ .absent := by
  unfold FlagPair.observe
  split
  · exact nofun
  · exact nofun

theorem Policy.observe_ne_absent (held want : Attributes) : observe held want ≠ .absent := by
  unfold observe
  split
  · exact nofun
  · exact nofun

/-- A kind of the catalogue pursues each of its targets but absence. -/
theorem pursues_of_mem {entry : Entry} {selector : Selector} {kind : ResourceKind}
    (hkind : kindOf entry selector = .ok kind) {target : Target} (hmem : target ∈ kind.targets)
    (htarget : target ≠ .absent) : kind.Pursues target := by
  cases entry with
  | natPool =>
      obtain rfl := Except.ok.inj hkind
      obtain rfl : target = .present := by
        simpa [NatPool.kind, htarget] using hmem
      exact .present fun _ _ h => by cases h
  | logEndpoint =>
      obtain ⟨variety, rfl⟩ := LogEndpoint.exists_variety hkind
      obtain rfl : target = .present := by
        simpa [LogEndpoint.kind, htarget] using hmem
      exact .present fun _ _ h => by cases h
  | globals =>
      obtain rfl := Except.ok.inj hkind
      obtain rfl : target = .present := List.mem_singleton.mp hmem
      exact .present fun _ _ h => by cases h
  | virtual =>
      obtain rfl := Except.ok.inj hkind
      have htargets : target = .present ∨ target = .enabled ∨ target = .disabled := by
        simpa [Virtual.kind, htarget] using hmem
      rcases htargets with rfl | rfl | rfl
      · exact .present fun held _ => observe_flags_ne_absent _ held
      · exact .flagged rfl rfl
      · exact .flagged rfl rfl
  | policy =>
      obtain ⟨generation, -, heq⟩ := bind_eq_ok_iff.mp hkind
      obtain rfl := Except.ok.inj heq
      have htargets : target = .present ∨ target = .activated := by
        simpa [Policy.kind, htarget] using hmem
      rcases htargets with rfl | rfl
      · exact .present Policy.observe_ne_absent
      · exact .followed List.mem_cons_self rfl
  | volume =>
      obtain rfl := Except.ok.inj hkind
      have htargets : target = .installed ∨ target = .activated := by
        simpa [Volume.kind] using hmem
      rcases htargets with rfl | rfl
      · exact .followed List.mem_cons_self rfl
      · exact .followed List.mem_cons_self rfl
  | archive =>
      obtain rfl := Except.ok.inj hkind
      have htargets : target = .present ∨ target = .installed := by
        simpa [Archive.kind, htarget] using hmem
      rcases htargets with rfl | rfl
      · exact .present fun _ _ h => by cases h
      · exact .followed List.mem_cons_self rfl
  | provisioning =>
      obtain rfl := Except.ok.inj hkind
      obtain rfl : target = .present := List.mem_singleton.mp hmem
      exact .present fun _ _ h => by cases h

/-! ## What is left behind -/

section Left

variable
  (hok : ((pass.reconcile order.params).run Device.offline shelf).result = some (.ok report))
  (hwant : pass.kind.want pass.key.partition order.params pass.target = .ok want)
  (htarget : pass.target ≠ .absent)

include hok hwant htarget

/-- A resource that takes neither flags nor jobs arrives as soon as it is there. -/
theorem arrived_of_flagless (himmediate : pass.kind.Immediate)
    (hflagless : pass.kind.flags = none) (hlive : pass.checkOnly = false) :
    ∃ stored, ((pass.reconcile order.params).run Device.offline shelf).state.snapshot.get?
        pass.key.display = some stored ∧ pass.Arrived want stored := by
  have hdirect := direct_of_kind rfl himmediate hlive
  exact hdirect.arrived_of_ok hok hwant htarget (fun _ _ => hdirect.arrived hflagless _ _)
    fun _ _ _ _ => hdirect.arrived hflagless _ _

/-- A virtual server arrives with the flags that are sent, whatever flags were
stored. -/
theorem Virtual.arrived_of_ok (hkind : pass.kind = kind) (hlive : pass.checkOnly = false)
    (hformed : shelf.snapshot.WellFormed) :
    ∃ stored, ((pass.reconcile order.params).run Device.offline shelf).state.snapshot.get?
        pass.key.display = some stored ∧ pass.Arrived want stored := by
  have hdirect := direct_of_kind hkind immediate hlive
  refine hdirect.arrived_of_ok hok hwant htarget (fun created hcreated => ?_)
    fun raw changes hraw hchanges => ?_
  · rw [hkind] at hcreated
    refine ⟨?_, hdirect.followUpsDue_eq _⟩
    rw [hkind]
    have hunflagged := Pass.unflagged_created hkind faithful switched
      (ResourceKind.distinct_of_creation hcreated) (ResourceKind.names_of_creation hcreated) want
    rwa [hkind] at hunflagged
  · rw [hkind] at hchanges ⊢
    refine ⟨?_, hdirect.followUpsDue_eq _⟩
    rw [hkind]
    have hunflagged := Pass.unflagged_updated hkind faithful switched
      (Schema.distinct_of_changes hchanges) (faithful.names_of_changes hchanges)
      (hformed.get? hraw).distinct want
    rwa [hkind] at hunflagged

/-- What jobs bring to a target arrives with them. -/
theorem arrived_of_finished (hprompt : pass.Prompt)
    (hcreation : ∀ {created : Attributes}, pass.kind.singleton = false →
      pass.kind.creation want = .ok created →
        pass.Finished want (pass.leaves want
          (pass.target.satisfiedBy (pass.kind.observe created want)) true
            (pass.creationBody created)))
    (hupdate : ∀ raw changes, shelf.snapshot.get? pass.key.display = some raw →
      pass.kind.changes want (pass.kind.read raw) = .ok changes →
        pass.Finished want (pass.leaves want
          (pass.target.satisfiedBy (pass.kind.observe (pass.kind.read raw) want))
            (!changes.isEmpty) (raw.update (pass.kind.write changes)))) :
    ∃ stored, ((pass.reconcile order.params).run Device.offline shelf).state.snapshot.get?
        pass.key.display = some stored ∧ pass.Arrived want stored := by
  obtain ⟨stored, hafter, hfinished⟩ :=
    hprompt.finished_of_ok hok hwant htarget hcreation hupdate
  exact ⟨stored, hafter, hfinished.arrived hprompt.flagless⟩

end Left

/-! ## Work orders -/

/-- What a live work order leaves behind of a resource that it keeps has arrived,
unless it is an archive that is to be installed. -/
theorem arrived_of_ok (hpass : Plan.passOf order patience = .ok pass)
    (hrecognised : Entry.ofName order.entry = .ok .archive → order.target ≠ .installed)
    (hlive : order.checkOnly = false) (hformed : shelf.snapshot.WellFormed)
    (hok : ((pass.reconcile order.params).run Device.offline shelf).result = some (.ok report))
    (hwant : pass.kind.want pass.key.partition order.params pass.target = .ok want)
    (htarget : pass.target ≠ .absent) :
    ∃ stored, ((pass.reconcile order.params).run Device.offline shelf).state.snapshot.get?
        pass.key.display = some stored ∧ pass.Arrived want stored := by
  obtain ⟨entry, hentry, hkindOf, hcheck⟩ := Plan.passOf_eq_ok hpass
  have hlivePass : pass.checkOnly = false := hcheck.trans hlive
  have hsame := Plan.target_of_passOf hpass
  have haccepts := ResourceKind.accepts_of_want hwant
  cases entry with
  | natPool =>
      have hkind : pass.kind = NatPool.kind := (Except.ok.inj hkindOf).symm
      exact arrived_of_flagless hok hwant htarget (hkind ▸ NatPool.immediate) (hkind ▸ rfl)
        hlivePass
  | logEndpoint =>
      obtain ⟨variety, hkind⟩ := LogEndpoint.exists_variety hkindOf
      exact arrived_of_flagless hok hwant htarget (hkind ▸ LogEndpoint.immediate variety)
        (hkind ▸ rfl) hlivePass
  | globals =>
      have hkind : pass.kind = Globals.kind := (Except.ok.inj hkindOf).symm
      exact arrived_of_flagless hok hwant htarget (hkind ▸ Globals.immediate) (hkind ▸ rfl)
        hlivePass
  | virtual =>
      exact Virtual.arrived_of_ok hok hwant htarget (Except.ok.inj hkindOf).symm hlivePass
        hformed
  | policy =>
      obtain ⟨generation, -, heq⟩ := bind_eq_ok_iff.mp hkindOf
      have hkind : pass.kind = Policy.kind generation := (Except.ok.inj heq).symm
      have hprompt := Plan.prompt_of_passOf hpass (hkind ▸ Policy.prompt generation _) hlive
      refine arrived_of_finished hok hwant htarget hprompt ?_ ?_
      · rw [hkind] at haccepts ⊢
        exact fun _ => Policy.finished_created hkind haccepts htarget
      · rw [hkind] at haccepts ⊢
        intro raw changes hraw
        exact Policy.finished_updated hkind haccepts htarget (hformed.get? hraw).distinct
  | volume =>
      have hkind : pass.kind = Volume.kind := (Except.ok.inj hkindOf).symm
      have hprompt := Plan.prompt_of_passOf hpass (hkind ▸ Volume.prompt _) hlive
      refine arrived_of_finished hok hwant htarget hprompt ?_ ?_
      · rw [hkind] at haccepts ⊢
        exact fun _ => Volume.finished_created hkind haccepts
      · rw [hkind] at haccepts ⊢
        intro raw changes hraw
        exact Volume.finished_updated hkind haccepts (hformed.get? hraw).distinct
  | archive =>
      have hkind : pass.kind = Archive.kind := (Except.ok.inj hkindOf).symm
      have hkept := hrecognised hentry
      have hprompt := Plan.prompt_of_passOf hpass (hkind ▸ Archive.prompt hkept) hlive
      rw [← hsame] at hkept
      exact arrived_of_finished hok hwant htarget hprompt
        (fun _ _ => Archive.finished hkind hkept _ _) fun _ _ _ _ =>
          Archive.finished hkind hkept _ _
  | provisioning =>
      have hkind : pass.kind = Provisioning.kind := (Except.ok.inj hkindOf).symm
      have hprompt := Plan.prompt_of_passOf hpass (hkind ▸ Provisioning.prompt _) hlive
      -- entries are always there, so none is created
      refine arrived_of_finished hok hwant htarget hprompt ?_ ?_
      · rw [hkind]
        exact nofun
      · rw [hkind] at haccepts ⊢
        intro raw changes hraw
        exact Provisioning.finished_updated hkind haccepts (hformed.get? hraw).distinct

/-- A live work order that succeeds has reached its target: without the resource, or
with one that is observed in a condition which satisfies the target.  This is so
for every entry of the catalogue but archives that are to be installed. -/
theorem target_reached
    (hrecognised : Entry.ofName order.entry = .ok .archive → order.target ≠ .installed)
    (hlive : order.checkOnly = false) (hformed : shelf.snapshot.WellFormed)
    (hok : (Plan.run order patience shelf).result = some (.ok report)) :
    ∃ pass want, Plan.passOf order patience = .ok pass ∧ pass.target = order.target ∧
      pass.kind.want pass.key.partition order.params pass.target = .ok want ∧
        pass.Reached want (Plan.run order patience shelf).state.snapshot := by
  obtain ⟨pass, hpass⟩ := Plan.passOf_of_ok hok
  obtain ⟨entry, -, hkindOf, hcheck⟩ := Plan.passOf_eq_ok hpass
  rw [Plan.run_of_passOf hpass] at hok ⊢
  obtain ⟨want, hwant⟩ := want_of_ok hok
  have hmem := (ResourceKind.accepts_of_want hwant).target_mem
  exact ⟨pass, want, hpass, Plan.target_of_passOf hpass, hwant,
    reached_of_arrived (hcheck.trans hlive) (pursues_of_mem hkindOf hmem) hok
      (arrived_of_ok hpass hrecognised hlive hformed hok hwant)⟩

/-- A device with a server that is stored as enabled and as disabled. -/
def tornShelf : Device.Shelf :=
  ⟨⟨[("ltm/virtual:/Common/vs1", ⟨[("destination", .text "/Common/10.0.0.1:80"),
    ("enabled", .flag true), ("disabled", .flag true)]⟩)]⟩, []⟩

/-- Asks for the server to be enabled. -/
def reopened : WorkOrder where
  entry := Entry.virtual.name
  name := some "vs1"
  target := .enabled

/-- The server counts as disabled, and is enabled. -/
theorem reopened_reached :
    (∃ report, (Plan.run reopened 0 tornShelf).result = some (.ok report)) ∧
      ∃ pass want, Plan.passOf reopened 0 = .ok pass ∧ pass.target = .enabled ∧
        pass.kind.want pass.key.partition reopened.params pass.target = .ok want ∧
          pass.Reached want (Plan.run reopened 0 tornShelf).state.snapshot := by
  obtain ⟨report, hok⟩ : ∃ report, (Plan.run reopened 0 tornShelf).result =
      some (.ok report) := Pass.exists_report_of_succeeds (by decide +kernel)
  have hformed : tornShelf.snapshot.WellFormed := by decide +kernel
  exact ⟨⟨report, hok⟩, target_reached (fun _ => nofun) rfl hformed hok⟩

end Catalog
end DesiredState
