import DesiredState.Proofs.Catalog.Group.Frame
import DesiredState.Proofs.Catalog.NatPool.Repetition

/-!
# What an update of a NAT pool leaves alone

An end of the port range that is neither wanted nor stored is not sent, but it
is written with its default as soon as the other end is sent.  A member of a
nested map that is not sent is lost with the others.  All else that is not sent
is shown as before.
-/

namespace DesiredState
namespace Catalog
namespace NatPool

variable {pass : Pass} {params want raw changes sent base view : Attributes}
  {partition : String} {target : Target} {name other : String}

/-- Two names are the two ends of the range. -/
def AreEnds (name other : String) : Prop :=
  name = "port_range_low" ∧ other = "port_range_high" ∨
    name = "port_range_high" ∧ other = "port_range_low"

theorem AreEnds.symm (h : AreEnds name other) : AreEnds other name :=
  Or.symm (Or.imp And.symm And.symm h)

theorem AreEnds.isEnd (h : AreEnds name other) :
    name = "port_range_low" ∨ name = "port_range_high" :=
  h.imp And.left And.left

theorem AreEnds.paired (h : AreEnds name other) :
    name ∈ schema.names ∧ schema.comparison name = .paired other := by
  rcases h with ⟨rfl, rfl⟩ | ⟨rfl, rfl⟩
  · exact ⟨by decide, rfl⟩
  · exact ⟨by decide, rfl⟩

/-- When one end is sent alone, the other one is shown with its default. -/
theorem get?_read_of_lone_end (hends : AreEnds name other)
    (hfollows : kind.Follows followed sent base view) (hunsent : sent.get? name = none)
    {port : Int} (hsent : sent.get? other = some (.int port))
    (hport : 0 ≤ port ∧ port ≤ 65535) :
    ∃ missing, (read view).get? name = some (.int missing) := by
  have hint := Attributes.int?_eq_some_iff.mpr hsent
  have hnone : sent.int? name = none := by
    rw [Attributes.int?, hunsent]
    rfl
  rcases hends with ⟨rfl, rfl⟩ | ⟨rfl, rfl⟩
  · have hrange : range? sent = some (joinRange defaultLow port) := by
      rw [range?_eq_some (Or.inr (by simp [hint])), hnone, hint]
      rfl
    exact ⟨_, (read_of_range hfollows hrange (by decide) (by decide) (fits_of_port hport)).1⟩
  · have hrange : range? sent = some (joinRange port defaultHigh) := by
      rw [range?_eq_some (Or.inl (by simp [hint])), hnone, hint]
      rfl
    exact ⟨_, (read_of_range hfollows hrange hport.1 (fits_of_port hport) (by decide)).2⟩

/-- When neither end is sent, both are shown as before. -/
theorem get?_read_of_no_end (hends : AreEnds name other)
    (hfollows : kind.Follows followed sent base view) (hunsent : sent.get? name = none)
    (hother : sent.get? other = none) : (read view).get? name = (read base).get? name := by
  have hnone : range? sent = none := by
    rcases hends with ⟨rfl, rfl⟩ | ⟨rfl, rfl⟩
    · rw [range?, Attributes.int?, hunsent, Attributes.int?, hother]
      rfl
    · rw [range?, Attributes.int?, hother, Attributes.int?, hunsent]
      rfl
  obtain ⟨hlow, hhigh⟩ := read_of_no_range hfollows hnone
  rcases hends with ⟨rfl, -⟩ | ⟨rfl, -⟩
  · exact hlow
  · exact hhigh

/-- An end of the range that is not sent is shown as before exactly when the
other end is not sent either. -/
theorem get?_end_unsent_iff (haccepts : kind.Accepts partition params target want)
    (hchanges : kind.changes want (kind.read raw) = .ok changes)
    (hfollows : kind.Follows followed changes (schema.ofWire raw) view)
    (hends : AreEnds name other) (hunsent : name ∉ changes.names) :
    (read view).get? name = (kind.read raw).get? name ↔
      Group.Undisturbed kind groups raw changes name := by
  obtain ⟨hname, hpaired⟩ := hends.paired
  have hnone := Attributes.get?_eq_none_iff.mpr hunsent
  have hapart : Group.Undisturbed kind groups raw changes name ↔ other ∉ changes.names := by
    have hrange : name ∈ rangeNames := by
      rcases hends with ⟨rfl, -⟩ | ⟨rfl, -⟩ <;> decide
    constructor
    · intro h
      exact h.apart other hpaired
    · intro h
      refine ⟨fun group hgroup hmember => ?_, fun partner hpartner => ?_⟩
      · exact absurd (List.mem_cons_of_mem _ hmember)
          (not_mem_scope_of_range name hrange group hgroup)
      · obtain rfl := Comparison.paired.inj (hpaired.symm.trans hpartner)
        exact h
  have hsent := faithful.get?_changes_of_pair hchanges hname hpaired
  rw [hapart]
  by_cases hdiffers : (Schema.differs want (kind.read raw) name ||
      Schema.differs want (kind.read raw) other) = true
  · simp only [if_pos hdiffers] at hsent
    -- the end is not there to be sent, so it is the other one that differs
    obtain ⟨hunwanted, hunheld⟩ :=
      Option.or_eq_none_iff.mp ((hsent name (Or.inl rfl)).symm.trans hnone)
    have hother : Schema.differs want (kind.read raw) other = true := by
      simpa [Schema.differs, hunwanted] using hdiffers
    obtain ⟨wanted, hwanted⟩ := Schema.wanted_of_differs hother
    obtain ⟨port, rfl, hport⟩ := int_of_end haccepts hends.symm.isEnd hwanted
    have hlone : changes.get? other = some (.int port) := by
      rw [hsent other (Or.inr rfl), hwanted, Option.some_or]
    obtain ⟨missing, hread⟩ := get?_read_of_lone_end hends hfollows hnone hlone hport
    refine iff_of_false ?_ fun hapart => hapart (Attributes.mem_names_iff.mpr ⟨_, hlone⟩)
    rw [hread, hunheld]
    exact Option.some_ne_none _
  · simp only [if_neg hdiffers] at hsent
    have hother := hsent other (Or.inr rfl)
    exact iff_of_true (get?_read_of_no_end hends hfollows hnone hother)
      (Attributes.get?_eq_none_iff.mp hother)

/-- A member of a group that is not sent is shown as before exactly when it is
undisturbed. -/
theorem get?_member_unsent_iff (haccepts : kind.Accepts partition params target want)
    (hfollows : kind.Follows followed changes (schema.ofWire raw) view) (hraw : raw.Distinct)
    {group : Group} (hgroup : group ∈ groups) {logical inner : String}
    (hmember : (logical, inner) ∈ group.members) (hunsent : logical ∉ changes.names) :
    (read view).get? logical = (kind.read raw).get? logical ↔
      Group.Undisturbed kind groups raw changes logical := by
  have hscope : logical ∈ group.scope := Group.mem_scope_of_mem hmember
  have hrange : logical ∉ rangeNames := fun hrange =>
    not_mem_scope_of_range _ hrange group hgroup hscope
  obtain ⟨field, hfield, rfl⟩ := List.mem_map.mp (members_declared group hgroup _ hmember)
  have hplain : ∀ name ∈ group.scope, schema.Plain name := fun name hname =>
    (bare_of_mem_followed name (List.mem_append_right _
      (List.mem_flatMap.mpr ⟨group, hgroup, hname⟩))).1
  have herased : (kind.read (raw.erase group.wire)).get? field.name =
      (schema.ofWire raw).get? field.name :=
    (get?_read_of_not_range _ hrange).trans (Group.get?_spreadAll_erased allRegular_groups
      hgroup hmember (hplain _ List.mem_cons_self) (hplain _ hscope) hraw)
  rw [Group.undisturbed_iff_of_member allRegular_groups hgroup hmember
      (ordinary haccepts hfield hrange).single_comparison,
    get?_member_of_follows hfollows hgroup hmember,
    Attributes.get?_eq_none_iff.mpr hunsent, Option.map_none, Option.none_or, herased]
  cases group.sends changes with
  | true => simp
  | false =>
      simp only [Bool.false_eq_true, if_false, false_imp_iff, iff_true]
      rfl

/-- An attribute that is not sent is shown as before exactly when it is
undisturbed. -/
theorem get?_read_unsent_iff (hkind : pass.kind = kind)
    (haccepts : kind.Accepts partition params target want) (hraw : raw.Distinct)
    (hchanges : kind.changes want (kind.read raw) = .ok changes)
    (hname : name ∈ schema.names) (hunsent : name ∉ changes.names) :
    (kind.read (raw.update (pass.updateBody want (kind.read raw) changes))).get? name =
        (kind.read raw).get? name ↔
      Group.Undisturbed kind groups raw changes name := by
  have hfollows := Pass.follows_updated hkind faithful bare_of_mem_followed hraw hchanges
    (kind.read raw)
  rcases name_cases hname with (rfl | rfl) | ⟨group, hgroup, inner, hmember⟩ |
    ⟨hrange, hgroups⟩
  · exact get?_end_unsent_iff haccepts hchanges hfollows (Or.inl ⟨rfl, rfl⟩) hunsent
  · exact get?_end_unsent_iff haccepts hchanges hfollows (Or.inr ⟨rfl, rfl⟩) hunsent
  · exact get?_member_unsent_iff haccepts hfollows hraw hgroup hmember hunsent
  · obtain ⟨field, hfield, rfl⟩ := List.mem_map.mp hname
    have hsingle := (ordinary haccepts hfield hrange).single_comparison
    refine iff_of_true ?_ (Group.undisturbed_of_not_mem hgroups hsingle)
    rw [Pass.get?_read_updated hkind faithful (transparent hname hrange hgroups)
      (Schema.distinct_of_changes hchanges) (faithful.names_of_changes hchanges) want raw,
      Schema.shown, Attributes.get?_eq_none_iff.mpr hunsent]

end NatPool
end Catalog
end DesiredState
