import DesiredState.Proofs.Catalog.LogEndpoint
import DesiredState.Proofs.Catalog.NatPool.Repetition
import DesiredState.Proofs.Schema.Dangling

/-!
# Dependents of a new resource

Dependencies are checked where a change set is computed, and a creation does not
compute one.  A log destination is safe all the same: a creation needs what its
pool forwards to.  A NAT pool is not: a log profile is accepted without the log
publisher that it depends on, and the next pass with the same parameters is
refused for it.  `Plan.dangles_created_iff` says that nothing else is created
with a dependency that dangles.
-/

namespace DesiredState

namespace Catalog

variable {pass : Pass} {params want created : Attributes} {partition : String}
  {target : Target}

/-- A new pool dangles exactly when a profile is wanted without a publisher. -/
theorem NatPool.dangles_created (hkind : pass.kind = kind)
    (haccepts : kind.Accepts partition params target want)
    (hcreated : kind.creation want = .ok created) :
    publishing.Dangles (kind.read (pass.creationBody created)) ↔ publishing.Dangles want := by
  have hset := isSet_created hkind haccepts hcreated
  rw [Dependency.Dangles, hset _ List.mem_cons_self,
    hset _ (List.mem_cons_of_mem _ List.mem_cons_self), Dependency.Dangles]

/-- A new destination does not dangle. -/
theorem LogEndpoint.not_dangles_created {variety : Variety} (hkind : pass.kind = kind variety)
    (haccepts : (kind variety).Accepts partition params target want)
    (hcreated : (kind variety).creation want = .ok created) {dependency : Dependency}
    (hdependency : dependency ∈ dependencies variety) :
    ¬ dependency.Dangles ((kind variety).read (pass.creationBody created)) := by
  rintro ⟨-, hunset⟩
  rw [isSet_created hkind haccepts hcreated hdependency _ List.mem_cons_self,
    isSet_of_dependency hcreated hdependency] at hunset
  cases hunset

/-- Only NAT pools and log destinations have dependencies. -/
theorem kind_of_dependency {entry : Entry} {selector : Selector} {kind : ResourceKind}
    (hkind : kindOf entry selector = .ok kind) {dependency : Dependency}
    (hdependency : dependency ∈ kind.dependencies) :
    (entry = .natPool ∧ kind = NatPool.kind ∧ dependency = NatPool.publishing) ∨
      entry = .logEndpoint ∧ ∃ variety, kind = LogEndpoint.kind variety ∧
        dependency ∈ LogEndpoint.dependencies variety := by
  cases entry with
  | natPool =>
      obtain rfl := Except.ok.inj hkind
      exact Or.inl ⟨rfl, rfl, List.mem_singleton.mp hdependency⟩
  | logEndpoint =>
      obtain ⟨variety, rfl⟩ := LogEndpoint.exists_variety hkind
      exact Or.inr ⟨rfl, variety, rfl, hdependency⟩
  | policy =>
      obtain ⟨generation, -, hfound⟩ := bind_eq_ok_iff.mp hkind
      obtain rfl := Except.ok.inj hfound
      cases hdependency
  | globals | virtual | volume | archive | provisioning =>
      obtain rfl := Except.ok.inj hkind
      cases hdependency

end Catalog

namespace Plan

open Catalog Device Pass

variable {order : WorkOrder} {patience : Nat} {shelf : Shelf} {report : Report} {pass : Pass}
  {stored : Attributes}

/-- A dependency of a resource that a work order creates dangles exactly when it
is the one of NAT pools and dangles in what is wanted. -/
theorem dangles_created_iff (hpass : passOf order patience = .ok pass)
    (hok : (run order patience shelf).result = some (.ok report))
    (hnone : shelf.snapshot.get? pass.key.display = none)
    (hstored : (run order patience shelf).state.snapshot.get? pass.key.display = some stored) :
    ∃ want, pass.kind.want pass.key.partition order.params pass.target = .ok want ∧
      ∀ dependency ∈ pass.kind.dependencies,
        dependency.Dangles (pass.kind.read stored) ↔
          Entry.ofName order.entry = .ok .natPool ∧ dependency.Dangles want := by
  obtain ⟨entry, hentry, hkind, -⟩ := passOf_eq_ok hpass
  rw [run_of_passOf hpass] at hok hstored
  obtain ⟨want, hwant⟩ := want_of_ok hok
  have haccepts := ResourceKind.accepts_of_want hwant
  obtain ⟨htarget, hlive⟩ := live_of_stored hok hwant hnone hstored
  refine ⟨want, hwant, fun dependency hdependency => ?_⟩
  -- neither kind takes jobs, so what is stored is the body of the creation
  have hbody : ∀ {kind : ResourceKind}, pass.kind = kind → kind.Immediate →
      ∃ created, kind.creation want = .ok created ∧ stored = pass.creationBody created := by
    rintro kind rfl himmediate
    obtain ⟨created, -, hcreated, hafter⟩ :=
      (direct_of_kind rfl himmediate hlive).created_of_ok hok hwant htarget hnone
    exact ⟨created, hcreated, Option.some.inj (hstored.symm.trans hafter)⟩
  rcases kind_of_dependency hkind hdependency with ⟨rfl, hpool, rfl⟩ |
    ⟨rfl, variety, hendpoint, hlisted⟩
  · obtain ⟨created, hcreated, rfl⟩ := hbody hpool NatPool.immediate
    rw [hpool] at haccepts ⊢
    rw [NatPool.dangles_created hpool haccepts hcreated, and_iff_right hentry]
  · obtain ⟨created, hcreated, rfl⟩ := hbody hendpoint (LogEndpoint.immediate variety)
    rw [hendpoint] at haccepts ⊢
    refine iff_of_false
      (LogEndpoint.not_dangles_created hendpoint haccepts hcreated hlisted) ?_
    rintro ⟨hnatPool, -⟩
    cases hentry.symm.trans hnatPool

/-- Asks for a pool that logs to a publisher. -/
def published : WorkOrder where
  entry := Entry.natPool.name
  name := some "lsn1"
  params := ⟨[("log_profile", .text "prof"), ("log_publisher", .text "pub")]⟩

/-- Asks for a pool with a profile for its log, but without a publisher. -/
def unpublished : WorkOrder :=
  { published with params := ⟨[("log_profile", .text "prof")]⟩ }

/-- The pool is created with both, so its profile has what it needs. -/
theorem published_not_dangles :
    ∃ stored, (run published 0 LogEndpoint.bareShelf).state.snapshot.get?
        "ltm/lsn-pool:/Common/lsn1" = some stored ∧
      ¬ NatPool.publishing.Dangles (NatPool.kind.read stored) := by
  obtain ⟨report, hok⟩ : ∃ report, (run published 0 LogEndpoint.bareShelf).result =
      some (.ok report) := exists_report_of_succeeds (by decide +kernel)
  obtain ⟨stored, hstored⟩ : ∃ stored, (run published 0
      LogEndpoint.bareShelf).state.snapshot.get? "ltm/lsn-pool:/Common/lsn1" = some stored :=
    Option.isSome_iff_exists.mp (by decide +kernel)
  have hpass : passOf published 0 =
      .ok ⟨NatPool.kind, ⟨"ltm/lsn-pool", "Common", "lsn1"⟩, .present, false, 0⟩ := rfl
  obtain ⟨want, hwant, hdangles⟩ := dangles_created_iff hpass hok rfl hstored
  refine ⟨stored, hstored, fun hbroken => ?_⟩
  obtain ⟨-, -, hunset⟩ := (hdangles NatPool.publishing List.mem_cons_self).mp hbroken
  obtain rfl : (⟨[("log_profile", .text "/Common/prof"),
    ("log_publisher", .text "/Common/pub")]⟩ : Attributes) = want :=
      Except.ok.inj (Eq.trans rfl hwant)
  cases hunset

/-- The pool is created with a profile that has no publisher. -/
theorem unpublished_dangles :
    (∃ report, (run unpublished 0 LogEndpoint.bareShelf).result = some (.ok report)) ∧
      ∃ stored, (run unpublished 0 LogEndpoint.bareShelf).state.snapshot.get?
          "ltm/lsn-pool:/Common/lsn1" = some stored ∧
        NatPool.publishing.Dangles (NatPool.kind.read stored) :=
  ⟨exists_report_of_succeeds (by decide +kernel),
    ⟨[("name", .text "lsn1"), ("logProfile", .text "/Common/prof")]⟩, rfl, by decide +kernel⟩

end Plan
end DesiredState
