import DesiredState.Proofs.Pass.Offline
import DesiredState.Proofs.ResourceKind

/-!
# Repeating a work order

A work order that was carried out is repeated on the device that it left
behind.  One that removes a resource always finds nothing left to do.  Of one
that keeps a resource this is not said here: it is reduced to the question
whether the resource, as the first pass stored it, is at rest, and that
question is answered kind by kind.
-/

namespace DesiredState

namespace Pass

/-- What a pass stores satisfies a condition: one on the wanted attributes where
it creates the resource; one on the wanted attributes, the stored resource and
the change set where it updates it. -/
def Lasts (pass : Pass) (want : Attributes) (stored : Option Attributes)
    (creation : Attributes → Prop)
    (update : Attributes → Attributes → Attributes → Prop) : Prop :=
  match stored with
  | none => creation want
  | some raw => ∀ changes, pass.kind.changes want (pass.kind.read raw) = .ok changes →
      update want raw changes

instance (pass : Pass) (want : Attributes) (creation : Attributes → Prop)
    [DecidablePred creation] (update : Attributes → Attributes → Attributes → Prop)
    [∀ want raw, DecidablePred (update want raw)] :
    (stored : Option Attributes) → Decidable (pass.Lasts want stored creation update)
  | none => inferInstanceAs (Decidable (creation want))
  | some raw => inferInstanceAs (Decidable (∀ changes,
      pass.kind.changes want (pass.kind.read raw) = .ok changes → update want raw changes))

/-- A target that is accepted may be removed, so it is none that always exists. -/
theorem removable_of_want {pass : Pass} {params want : Attributes}
    (hkept : pass.kind.singleton = true → pass.kind.supports .absent = false)
    (hwant : pass.kind.want pass.key.partition params pass.target = .ok want)
    (htarget : pass.target = .absent) : pass.kind.singleton = false := by
  have hsupported := (ResourceKind.accepts_of_want hwant).supported
  rw [htarget] at hsupported
  rw [← Bool.not_eq_true]
  intro hsingleton
  rw [hkept hsingleton] at hsupported
  cases hsupported

end Pass

namespace Plan

open Device Pass

/-- Repeated on any device with the snapshot that it left behind, a work order
succeeds, reports no change and leaves the snapshot as it is. -/
def Repeats (order : WorkOrder) (patience : Nat) (shelf : Shelf) : Prop :=
  ∀ again : Shelf, again.snapshot = (run order patience shelf).state.snapshot →
    Quiet (run order patience again) again.snapshot

/-- What a work order leaves behind lasts: where it keeps its resource, what its
pass stores satisfies the conditions. -/
def Lasts (order : WorkOrder) (patience : Nat) (snapshot : Snapshot)
    (creation : Attributes → Prop)
    (update : Attributes → Attributes → Attributes → Prop) : Prop :=
  ∀ pass, passOf order patience = .ok pass → pass.target ≠ .absent →
    ∀ want, pass.kind.want pass.key.partition order.params pass.target = .ok want →
      pass.Lasts want (snapshot.get? pass.key.display) creation update

instance (order : WorkOrder) (patience : Nat) (snapshot : Snapshot)
    (creation : Attributes → Prop) [DecidablePred creation]
    (update : Attributes → Attributes → Attributes → Prop)
    [∀ want raw, DecidablePred (update want raw)] :
    Decidable (Lasts order patience snapshot creation update) :=
  inferInstanceAs (Decidable (∀ pass, passOf order patience = .ok pass →
    pass.target ≠ .absent →
      ∀ want, pass.kind.want pass.key.partition order.params pass.target = .ok want →
        pass.Lasts want (snapshot.get? pass.key.display) creation update))

variable {order : WorkOrder} {patience : Nat} {shelf : Shelf}

/-- The pass of a work order has the kind of its entry, and changes what the
order does. -/
theorem passOf_eq_ok {pass : Pass} (h : passOf order patience = .ok pass) :
    ∃ entry, Catalog.Entry.ofName order.entry = .ok entry ∧
      Catalog.kindOf entry order.selector = .ok pass.kind ∧
        pass.checkOnly = order.checkOnly := by
  obtain ⟨entry, hentry, hrest⟩ := bind_eq_ok_iff.mp h
  obtain ⟨kind, hkind, hrest⟩ := bind_eq_ok_iff.mp hrest
  obtain ⟨key, -, hpass⟩ := bind_eq_ok_iff.mp hrest
  obtain rfl := Except.ok.inj hpass
  exact ⟨entry, hentry, hkind, rfl⟩

theorem kind_of_passOf {pass : Pass} {entry : Catalog.Entry} {kind : ResourceKind}
    (hentry : Catalog.Entry.ofName order.entry = .ok entry)
    (hkind : Catalog.kindOf entry order.selector = .ok kind)
    (hpass : passOf order patience = .ok pass) : pass.kind = kind := by
  obtain ⟨found, hfound, hfoundKind, -⟩ := passOf_eq_ok hpass
  obtain rfl := Except.ok.inj (hfound.symm.trans hentry)
  exact Except.ok.inj (hfoundKind.symm.trans hkind)

theorem target_of_passOf {pass : Pass} (hpass : passOf order patience = .ok pass) :
    pass.target = order.target := by
  obtain ⟨_, -, hrest⟩ := bind_eq_ok_iff.mp hpass
  obtain ⟨_, -, hrest⟩ := bind_eq_ok_iff.mp hrest
  obtain ⟨_, -, hrest⟩ := bind_eq_ok_iff.mp hrest
  obtain rfl := Except.ok.inj hrest
  rfl

/-- A work order that is carried out is one that the catalogue knows. -/
theorem passOf_of_ok {report : Report}
    (hok : (run order patience shelf).result = some (.ok report)) :
    ∃ pass, passOf order patience = .ok pass := by
  cases hpass : passOf order patience with
  | ok pass => exact ⟨pass, rfl⟩
  | error fault =>
      unfold run talk at hok
      rw [hpass] at hok
      cases hok

theorem run_of_passOf {pass : Pass} (hpass : passOf order patience = .ok pass)
    (shelf : Shelf) :
    run order patience shelf = (pass.reconcile order.params).run offline shelf := by
  unfold run talk
  rw [hpass]

/-- A work order whose second run is not idle does not repeat quietly. -/
theorem not_repeats_of_idle_eq_false
    (h : idle (run order patience (run order patience shelf).state) = false) :
    ¬Repeats order patience shelf := by
  intro hrepeats
  rw [idle_of_quiet (hrepeats _ rfl)] at h
  cases h

section Passes

variable {pass : Pass} {want : Attributes} (hpass : passOf order patience = .ok pass)

include hpass

/-- What lasts is asked of the pass of a work order. -/
theorem lasts_iff {snapshot : Snapshot} {creation : Attributes → Prop}
    {update : Attributes → Attributes → Attributes → Prop}
    (hwant : pass.kind.want pass.key.partition order.params pass.target = .ok want)
    (htarget : pass.target ≠ .absent) :
    Lasts order patience snapshot creation update ↔
      pass.Lasts want (snapshot.get? pass.key.display) creation update := by
  constructor
  · intro h
    exact h pass hpass htarget want hwant
  · intro h other hother _ others hothers
    obtain rfl := Except.ok.inj (hother.symm.trans hpass)
    obtain rfl := Except.ok.inj (hothers.symm.trans hwant)
    exact h

/-- A work order that removes a resource repeats quietly, where what always exists
cannot be removed. -/
theorem repeats_of_absent {report : Report}
    (hkept : pass.kind.singleton = true → pass.kind.supports .absent = false)
    (hlive : order.checkOnly = false) (htarget : pass.target = .absent)
    (hok : (run order patience shelf).result = some (.ok report)) :
    Repeats order patience shelf := by
  obtain ⟨-, -, -, hcheck⟩ := passOf_eq_ok hpass
  rw [run_of_passOf hpass] at hok
  obtain ⟨want, hwant⟩ := want_of_ok hok
  have hremovable := removable_of_want hkept hwant htarget
  have hgone := gone_of_ok (hcheck.trans hlive) hok htarget
  intro again hagain
  rw [run_of_passOf hpass] at hagain ⊢
  refine quiet_of_absent hwant hremovable htarget ?_
  rw [hagain]
  exact hgone

/-- Whatever is stored under the key afterwards decides whether the repetition
is quiet. -/
theorem repeats_iff_rests (hdirect : pass.Direct)
    (hwant : pass.kind.want pass.key.partition order.params pass.target = .ok want)
    (htarget : pass.target ≠ .absent) {after : Attributes}
    (hafter : (run order patience shelf).state.snapshot.get? pass.key.display = some after) :
    Repeats order patience shelf ↔ pass.Rests want after := by
  constructor
  · intro h
    have hquiet := h _ rfl
    rw [run_of_passOf hpass] at hquiet
    exact (hdirect.quiet_iff_rests hwant htarget hafter).mp hquiet
  · intro h again hagain
    rw [run_of_passOf hpass]
    refine (hdirect.quiet_iff_rests hwant htarget ?_).mpr h
    rw [hagain]
    exact hafter

end Passes

/-- Repeating a work order is quiet exactly when it lasts, provided that the
conditions of creations and updates say when what passes of its kind store is at
rest. -/
theorem repeats_iff_lasts {kind : ResourceKind} {report : Report}
    {creation : Attributes → Prop} {update : Attributes → Attributes → Attributes → Prop}
    (hkind : ∀ pass, passOf order patience = .ok pass → pass.kind = kind)
    (himmediate : kind.Immediate) (hlive : order.checkOnly = false)
    (hok : (run order patience shelf).result = some (.ok report))
    (hcreation : ∀ {pass : Pass} {want created : Attributes}, pass.kind = kind →
      kind.Accepts pass.key.partition order.params pass.target want →
        kind.singleton = false → kind.creation want = .ok created →
          (pass.Rests want (pass.creationBody created) ↔ creation want))
    (hupdate : ∀ {pass : Pass} {want raw changes : Attributes}, pass.kind = kind →
      kind.Accepts pass.key.partition order.params pass.target want →
        shelf.snapshot.get? pass.key.display = some raw →
          kind.changes want (kind.read raw) = .ok changes →
            (pass.Rests want (raw.update (pass.updateBody want (kind.read raw) changes)) ↔
              update want raw changes)) :
    Repeats order patience shelf ↔
      Lasts order patience shelf.snapshot creation update := by
  obtain ⟨pass, hpass⟩ := passOf_of_ok hok
  obtain ⟨-, -, -, hcheck⟩ := passOf_eq_ok hpass
  obtain rfl := hkind pass hpass
  have hdirect := direct_of_kind rfl himmediate (hcheck.trans hlive)
  by_cases htarget : pass.target = .absent
  · refine iff_of_true (repeats_of_absent hpass himmediate.kept hlive htarget hok) ?_
    intro other hother hkept
    obtain rfl := Except.ok.inj (hother.symm.trans hpass)
    exact absurd htarget hkept
  · have hrun := run_of_passOf hpass shelf
    rw [hrun] at hok
    obtain ⟨want, hwant⟩ := want_of_ok hok
    have haccepts := ResourceKind.accepts_of_want hwant
    rw [lasts_iff hpass hwant htarget]
    cases hstored : shelf.snapshot.get? pass.key.display with
    | none =>
        obtain ⟨created, hsingleton, hcreated, hafter⟩ :=
          hdirect.created_of_ok hok hwant htarget hstored
        rw [repeats_iff_rests hpass hdirect hwant htarget (hrun ▸ hafter)]
        exact hcreation rfl haccepts hsingleton hcreated
    | some raw =>
        obtain ⟨changes, hchanges, hafter⟩ :=
          hdirect.updated_of_ok hok hwant htarget hstored
        rw [repeats_iff_rests hpass hdirect hwant htarget (hrun ▸ hafter),
          hupdate rfl haccepts hstored hchanges]
        constructor
        · intro h others hothers
          obtain rfl := Except.ok.inj (hothers.symm.trans hchanges)
          exact h
        · intro h
          exact h changes hchanges

end Plan
end DesiredState
