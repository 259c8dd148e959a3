import DesiredState.Proofs.Pass.Exclusion
import DesiredState.Proofs.WellFormed

/-!
# The order of parameters

A caller gives parameters in some order, and none of it shows in what a pass
does: a want map comes in the order of declaration, and all that follows is
worked out from the want map.  The order shows in refusals only, where it tells
which of several unknown names is refused and which member of a pair is blamed;
the kind of the fault is the same.

`Concur` relates two computations that give the same value, or fail with faults
of the same kind.  It has a rule for sequences, so that every check of the
parameters has one lemma; the last check is up to the kind of resource, and gets
the same want map in both cases.
-/

namespace DesiredState

/-! ## Computations that concur -/

/-- Two computations give the same value, or fail with faults of the same kind. -/
inductive Concur {α : Type} : Except Fault α → Except Fault α → Prop
  | ok (value : α) : Concur (.ok value) (.ok value)
  | error {first second : Fault} (hkind : first.kind = second.kind) :
      Concur (.error first) (.error second)

namespace Concur

variable {α β : Type} {first second : Except Fault α}

theorem refl : (computed : Except Fault α) → Concur computed computed
  | .ok value => .ok value
  | .error _ => .error rfl

theorem bind {next other : α → Except Fault β} (h : Concur first second)
    (hnext : ∀ value, Concur (next value) (other value)) :
    Concur (first >>= next) (second >>= other) := by
  cases h with
  | ok value => exact hnext value
  | error hkind => exact .error hkind

theorem exists_faults_or_value (h : Concur first second) :
    (∃ fault other : Fault, fault.kind = other.kind ∧ first = .error fault ∧
        second = .error other) ∨
      ∃ value, first = .ok value ∧ second = .ok value := by
  cases h with
  | ok value => exact Or.inr ⟨value, rfl, rfl⟩
  | error hkind => exact Or.inl ⟨_, _, hkind, rfl, rfl⟩

end Concur

/-! ## Parameters that tell the same -/

variable {params other : Attributes} {partition : String}

/-- The same names are found in two maps that tell the same. -/
theorem Attributes.mem_names_of_get?_eq (h : ∀ name, params.get? name = other.get? name)
    {name : String} (hname : name ∈ params.names) : name ∈ other.names := by
  obtain ⟨value, hvalue⟩ := mem_names_iff.mp hname
  exact mem_names_iff.mpr ⟨value, (h name).symm.trans hvalue⟩

namespace Schema

variable {schema : Schema}

/-- An unknown name is found in both maps, if in one of them. -/
theorem unknown_of_get?_eq (h : ∀ name, params.get? name = other.get? name)
    (hnone : (params.names.find? fun name => (schema.field? name).isNone) = none) :
    (other.names.find? fun name => (schema.field? name).isNone) = none := by
  rw [List.find?_eq_none] at hnone ⊢
  exact fun name hname =>
    hnone name (Attributes.mem_names_of_get?_eq (fun name => (h name).symm) hname)

/-- What is wanted does not depend on the order of the parameters. -/
theorem concur_want (schema : Schema) (partition : String)
    (h : ∀ name, params.get? name = other.get? name) :
    Concur (schema.want params partition) (schema.want other partition) := by
  have hwanted : wanted params partition = wanted other partition := by
    funext field
    rw [wanted, wanted, h]
  unfold want
  cases hfirst : params.names.find? fun name => (schema.field? name).isNone with
  | some unknown =>
      cases hsecond : other.names.find? fun name => (schema.field? name).isNone with
      | some another => exact .error rfl
      | none =>
          rw [unknown_of_get?_eq (fun name => (h name).symm) hsecond] at hfirst
          cases hfirst
  | none =>
      rw [unknown_of_get?_eq h hfirst, hwanted]
      exact .refl _

end Schema

namespace ResourceKind

variable {kind : ResourceKind}

/-- Which pair is refused does not depend on the order of the parameters. -/
theorem concur_refusePair (supplied others : List String) (pairs : List (String × String))
    (together : String → String → Bool) :
    Concur (refusePair supplied pairs together) (refusePair others pairs together) := by
  unfold refusePair
  split
  · exact .error rfl
  · exact .ok ()

/-- Parameters that tell the same are accepted with the same want map, or refused
with faults of the same kind. -/
theorem concur_want (kind : ResourceKind) (partition : String) (target : Target)
    (h : ∀ name, params.get? name = other.get? name) :
    Concur (kind.want partition params target) (kind.want partition other target) := by
  rw [want_eq, want_eq]
  refine (Concur.refl _).bind fun _ => ?_
  have hconflicting : Concur (kind.checkConflicting params) (kind.checkConflicting other) := by
    have hcontains : params.contains = other.contains := by
      funext name
      rw [Attributes.contains, Attributes.contains, h]
    rw [checkConflicting, checkConflicting, hcontains]
    exact concur_refusePair ..
  refine hconflicting.bind fun _ => (kind.schema.concur_want partition h).bind fun want => ?_
  exact (concur_refusePair ..).bind fun _ => .refl _

end ResourceKind

namespace Pass

/-- Of parameters that are given in two orders, either both are refused with
faults of the same kind and without a request, or both are accepted with the same
want map, and the passes make the same requests, with the same bodies, and come to
the same end. -/
theorem order_of_params_irrelevant (pass : Pass) (hdistinct : params.Distinct)
    (hperm : params.entries.Perm other.entries) {σ : Type} (device : Device σ) (state : σ) :
    (∃ first second, first.kind = second.kind ∧
        pass.kind.want pass.key.partition params pass.target = .error first ∧
        pass.kind.want pass.key.partition other pass.target = .error second ∧
        (pass.reconcile params).run device state =
          ⟨some (.error ⟨false, first⟩), state, []⟩ ∧
        (pass.reconcile other).run device state =
          ⟨some (.error ⟨false, second⟩), state, []⟩) ∨
      (∃ want, pass.kind.want pass.key.partition params pass.target = .ok want ∧
        pass.kind.want pass.key.partition other pass.target = .ok want) ∧
      (pass.reconcile params).run device state = (pass.reconcile other).run device state := by
  have hsame : ∀ name, params.get? name = other.get? name := fun name =>
    (Entries.lookup_of_perm hdistinct hperm name).symm
  rcases (pass.kind.concur_want pass.key.partition pass.target hsame).exists_faults_or_value with
    ⟨first, second, hkind, hfirst, hsecond⟩ | ⟨want, hfirst, hsecond⟩
  · exact Or.inl ⟨first, second, hkind, hfirst, hsecond, run_of_refused hfirst device state,
      run_of_refused hsecond device state⟩
  · -- from the want map on nothing looks at the parameters
    have htalk : pass.reconcile params = pass.reconcile other := by
      rw [reconcile, reconcile, hfirst, hsecond]
    exact Or.inr ⟨⟨want, hfirst, hsecond⟩, by rw [htalk]⟩

/-- The samples of a pair that is refused and of one that is not, given backwards: the
one is refused with the same kind of fault, the other makes the same pass. -/
theorem guarded_backwards :
    (∃ first second, first.kind = second.kind ∧
        (guarded.reconcile fencedTwice).run Device.offline ⟨.empty, []⟩ =
          ⟨some (.error ⟨false, first⟩), ⟨.empty, []⟩, []⟩ ∧
        (guarded.reconcile ⟨fencedTwice.entries.reverse⟩).run Device.offline ⟨.empty, []⟩ =
          ⟨some (.error ⟨false, second⟩), ⟨.empty, []⟩, []⟩) ∧
      (guarded.reconcile fencedOnce).run Device.offline ⟨.empty, []⟩ =
        (guarded.reconcile ⟨fencedOnce.entries.reverse⟩).run Device.offline ⟨.empty, []⟩ := by
  have htwice : fencedTwice.Distinct := by decide
  have honce : fencedOnce.Distinct := by decide
  constructor
  · rcases order_of_params_irrelevant guarded htwice (List.reverse_perm _).symm
        Device.offline ⟨.empty, []⟩ with
      ⟨first, second, hkind, -, -, hrun, hbackwards⟩ | ⟨⟨want, haccepted, -⟩, -⟩
    · exact ⟨first, second, hkind, hrun, hbackwards⟩
    · cases haccepted
  · rcases order_of_params_irrelevant guarded honce (List.reverse_perm _).symm
        Device.offline ⟨.empty, []⟩ with
      ⟨first, second, -, hrefused, -⟩ | ⟨-, hsame⟩
    · cases hrefused
    · exact hsame

end Pass
end DesiredState
