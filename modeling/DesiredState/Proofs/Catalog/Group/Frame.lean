import DesiredState.Proofs.Catalog.Group.View
import DesiredState.Proofs.Pass.Stored
import Mathlib.Data.List.Pairwise

/-!
# What an update leaves alone

An attribute that is not sent may still be lost: with its nested map, when
another member of its group is sent, or by its partner, which is written
together with it.  `Group.Undisturbed` says that neither happens.  That this is
all that can happen is shown kind by kind.
-/

namespace DesiredState
namespace Catalog
namespace Group

/-- Nothing that is sent takes an attribute with it that is not sent. -/
structure Undisturbed (kind : ResourceKind) (groups : List Group)
    (raw changes : Attributes) (name : String) : Prop where
  /-- Where its group is sent, the attribute is shown without the nested map just
  as it is with it. -/
  beside : ∀ group ∈ groups, name ∈ group.members.map Prod.fst →
    group.sends changes = true →
      (kind.read (raw.erase group.wire)).get? name = (kind.read raw).get? name
  /-- No partner of the attribute is sent. -/
  apart : ∀ partner, kind.schema.comparison name = .paired partner →
    partner ∉ changes.names

variable {kind : ResourceKind} {schema : Schema} {groups : List Group} {group : Group}
  {raw changes : Attributes} {name logical inner : String}

/-- A name is in the scope of one group at most. -/
theorem eq_of_mem_scope (hregular : AllRegular groups) {other : Group}
    (hgroup : group ∈ groups) (hother : other ∈ groups) (hname : name ∈ group.scope)
    (hshared : name ∈ other.scope) : group = other := by
  have hsymmetric : Std.Symm fun first second : Group =>
      ∀ name ∈ first.scope, name ∉ second.scope :=
    ⟨fun first second h name hsecond hfirst => h name hfirst hsecond⟩
  by_contra hne
  exact hregular.2.forall hgroup hother hne name hname hshared

/-- A member that is judged on its own is undisturbed unless its group is sent
and it is not shown beside the nested map. -/
theorem undisturbed_iff_of_member (hregular : AllRegular groups) (hgroup : group ∈ groups)
    (hmember : (logical, inner) ∈ group.members)
    (hsingle : ∀ partner, kind.schema.comparison logical ≠ .paired partner) :
    Undisturbed kind groups raw changes logical ↔
      (group.sends changes = true →
        (kind.read (raw.erase group.wire)).get? logical = (kind.read raw).get? logical) := by
  have hlogical : logical ∈ group.members.map Prod.fst := List.mem_map.mpr ⟨_, hmember, rfl⟩
  constructor
  · intro h
    exact h.beside group hgroup hlogical
  · intro h
    refine ⟨fun other hother hshared hsends => ?_, fun partner hpaired => ?_⟩
    · obtain rfl := eq_of_mem_scope hregular hgroup hother (mem_scope_of_mem hmember)
        (List.mem_cons_of_mem _ hshared)
      exact h hsends
    · exact absurd hpaired (hsingle partner)

/-- A name outside all groups that is judged on its own is undisturbed. -/
theorem undisturbed_of_not_mem (hgroups : ∀ group ∈ groups, name ∉ group.scope)
    (hsingle : ∀ partner, kind.schema.comparison name ≠ .paired partner) :
    Undisturbed kind groups raw changes name where
  beside := fun group hgroup hmember =>
    absurd (List.mem_cons_of_mem _ hmember) (hgroups group hgroup)
  apart := fun partner hpaired => absurd hpaired (hsingle partner)

/-- Without the nested map of its group a member is read from where it stands. -/
theorem get?_spreadAll_erased (hregular : AllRegular groups) (hgroup : group ∈ groups)
    (hmember : (logical, inner) ∈ group.members) (hwire : schema.Plain group.wire)
    (hplain : schema.Plain logical) (hraw : raw.Distinct) :
    (spreadAll groups (schema.ofWire (raw.erase group.wire))).get? logical =
      (schema.ofWire raw).get? logical := by
  have herased := hraw.erase group.wire
  have hlogical : logical ∈ group.members.map Prod.fst := List.mem_map.mpr ⟨_, hmember, rfl⟩
  have hne : logical ≠ group.wire :=
    fun heq => (hregular.1 group hgroup).2.2 (heq ▸ hlogical)
  have hgone : (schema.ofWire (raw.erase group.wire)).get? group.wire = none := by
    rw [hwire.get?_ofWire herased, hraw.get?_erase, if_pos rfl, Option.map_none]
  have hnone : group.stored? (schema.ofWire (raw.erase group.wire)) inner = none := by
    rw [stored?, hgone]
  rw [get?_spreadAll_of_mem hregular hgroup hmember, hnone, Option.map_none, Option.none_or,
    hplain.get?_ofWire herased, hplain.get?_ofWire hraw, Attributes.get?_erase_of_ne _ hne]

end Group
end Catalog
end DesiredState
