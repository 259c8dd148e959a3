import DesiredState.Proofs.Catalog.Globals.Repetition
import DesiredState.Proofs.Catalog.Group.Frame

/-!
# What an update of the global settings leaves alone

Every setting but the wish for all or no ports is a member of a nested map, and
is lost with it when another member is sent and it is not.  The wish and the
port lockdown are two views of one field of the device, so neither is left
alone when the other one is sent.
-/

namespace DesiredState
namespace Catalog
namespace Globals

variable {pass : Pass} {params want raw changes view : Attributes}
  {partition : String} {target : Target} {name : String}

/-- The two views of the port lockdown. -/
def lockdownViews : List String := ["self_allow_all", "self_allow_defaults"]

/-- The names under which the attribute of a name is shown. -/
def views (name : String) : List String :=
  if name ∈ lockdownViews then lockdownViews else [name]

theorem mem_views (name : String) : name ∈ views name := by
  unfold views
  split
  · assumption
  · exact List.mem_cons_self

/-- Where neither view of the port lockdown is sent, both are shown as before. -/
theorem get?_lockdown_of_unsent
    (hfollows : kind.Follows followed changes (schema.ofWire raw) view)
    (hunsent : ∀ name ∈ lockdownViews, name ∉ changes.names) :
    ∀ name ∈ lockdownViews, (read view).get? name = (kind.read raw).get? name := by
  have hnone : ∀ name ∈ lockdownViews, changes.get? name = none :=
    fun name hname => Attributes.get?_eq_none_iff.mpr (hunsent name hname)
  have hprepared : (prepared changes).get? "self_allow_defaults" = none := by
    rw [get?_defaults_prepared, hnone _ (by decide), Attributes.flag?, hnone _ (by decide)]
    rfl
  have hshown := get?_defaults_of_unprepared hfollows hprepared
  intro name hname
  rw [read_kind_eq]
  rcases List.mem_cons.mp hname with rfl | hdefaults
  · rw [get?_all_read, get?_all_read, get?_all_of_follows hfollows, allowAll?, allowAll?,
      Attributes.text?, hshown, Attributes.text?]
  · obtain rfl := List.mem_singleton.mp hdefaults
    rw [get?_read_of_not_mem _ (by decide) (by decide) (by decide),
      get?_read_of_not_mem _ (by decide) (by decide) (by decide), hshown]

/-- No other group has a view of the port lockdown as its member. -/
theorem eq_lockdown_of_view : ∀ group ∈ groups, ∀ name ∈ lockdownViews,
    name ∈ group.members.map Prod.fst → group = lockdown := by
  decide

/-- A declared member outside the port lockdown is the flag of LLDP, or it is not
prepared. -/
theorem unprepared_of_member : ∀ group ∈ groups, group ≠ lockdown → ∀ member ∈ group.members,
    member.1 ∈ schema.names →
      (group = lldp ∧ member.1 = "lldp_enabled") ∨ member.1 ∉ preparedNames := by
  decide

section Members

variable {group : Group} {logical inner : String} (hgroup : group ∈ groups)
  (hother : group ≠ lockdown) (hmember : (logical, inner) ∈ group.members)
  (hname : logical ∈ schema.names)

include hgroup hother hmember hname

/-- Without the nested map of its group a member is read from where it stands. -/
theorem get?_read_erased (hraw : raw.Distinct) :
    (kind.read (raw.erase group.wire)).get? logical =
      (readLldp (schema.ofWire raw)).get? logical := by
  have hstands : ∀ member ∈ group.members,
      (Group.spreadAll groups (schema.ofWire (raw.erase group.wire))).get? member.1 =
        (schema.ofWire raw).get? member.1 := fun member hmember =>
    Group.get?_spreadAll_erased allRegular_groups hgroup hmember (plain _) (plain _) hraw
  rw [read_kind_eq]
  rcases unprepared_of_member group hgroup hother _ hmember hname with ⟨rfl, heq⟩ | hplain
  · obtain rfl : logical = "lldp_enabled" := heq
    have hdisabled := hstands ("lldp_disabled", "disabled") (by decide)
    rw [get?_enabled_read, get?_enabled_readLldp, Attributes.flag?, hdisabled,
      hstands _ hmember, Attributes.flag?]
  · simp only [preparedNames, List.mem_cons, List.not_mem_nil, or_false, not_or] at hplain
    obtain ⟨hall, -, henabled, hdisabled⟩ := hplain
    rw [get?_read_of_not_mem _ hall henabled hdisabled, hstands _ hmember,
      get?_readLldp_of_ne _ henabled hdisabled]

variable (haccepts : kind.Accepts partition params target want)
  (hchanges : kind.changes want (kind.read raw) = .ok changes)
  (hfollows : kind.Follows followed changes (schema.ofWire raw) view)

include haccepts hchanges hfollows

/-- A member that is not sent is read from where it stands when its nested map is
sent, and as before otherwise. -/
theorem get?_member_of_unsent (hunsent : logical ∉ changes.names) :
    (read view).get? logical =
      if group.sends changes then (readLldp (schema.ofWire raw)).get? logical
      else (kind.read raw).get? logical := by
  have hnone := Attributes.get?_eq_none_iff.mpr hunsent
  rcases unprepared_of_member group hgroup hother _ hmember hname with ⟨rfl, heq⟩ | hplain
  · obtain rfl : logical = "lldp_enabled" := heq
    exact get?_enabled_of_unsent hchanges haccepts hfollows hnone
  · have hnames := hplain
    simp only [preparedNames, List.mem_cons, List.not_mem_nil, or_false, not_or] at hnames
    obtain ⟨hall, -, henabled, hdisabled⟩ := hnames
    rw [read_kind_eq, get?_read_of_not_mem _ hall henabled hdisabled,
      get?_read_of_not_mem _ hall henabled hdisabled, get?_readLldp_of_ne _ henabled hdisabled,
      get?_member_updated hchanges haccepts hfollows hgroup hother hmember,
      get?_prepared_of_not_mem hplain, hnone]
    rfl

end Members

/-- An attribute of which no view is sent is shown as before exactly when it is
undisturbed. -/
theorem get?_read_unsent_iff (hkind : pass.kind = kind)
    (haccepts : kind.Accepts partition params target want) (hraw : raw.Distinct)
    (hchanges : kind.changes want (kind.read raw) = .ok changes)
    (hname : name ∈ schema.names) (hunsent : ∀ view ∈ views name, view ∉ changes.names) :
    (kind.read (raw.update (pass.updateBody want (kind.read raw) changes))).get? name =
        (kind.read raw).get? name ↔
      Group.Undisturbed kind groups raw changes name := by
  have hfollows := Pass.follows_updated hkind faithful bare_of_mem_followed hraw hchanges
    (kind.read raw)
  have hsingle : ∀ partner, kind.schema.comparison name ≠ .paired partner := by
    obtain ⟨field, hfield, rfl⟩ := List.mem_map.mp hname
    exact (ordinary haccepts hfield).single_comparison
  rw [read_kind_eq (raw.update _)]
  by_cases hview : name ∈ lockdownViews
  · have hviews : ∀ view ∈ lockdownViews, view ∉ changes.names := by
      rwa [views, if_pos hview] at hunsent
    refine iff_of_true (get?_lockdown_of_unsent hfollows hviews name hview) ?_
    refine ⟨fun group hgroup hmember hsends => ?_, fun partner hpaired =>
      absurd hpaired (hsingle partner)⟩
    -- the only group with a view as its member is not sent
    obtain rfl := eq_lockdown_of_view group hgroup name hview hmember
    obtain ⟨member, hlisted, hsent⟩ := List.any_eq_true.mp hsends
    obtain rfl := List.mem_singleton.mp hlisted
    exact absurd (Attributes.mem_names_iff.mpr (Attributes.contains_iff.mp hsent))
      (hviews _ (by decide))
  · have hself := hunsent name (mem_views name)
    obtain ⟨group, hgroup, ⟨logical, inner⟩, hmember, heq⟩ :=
      (names_grouped name hname).resolve_left fun heq => hview (heq ▸ List.mem_cons_self)
    obtain rfl : logical = name := heq
    have hother : group ≠ lockdown := by
      rintro rfl
      obtain ⟨rfl, -⟩ := Prod.mk.inj (List.mem_singleton.mp hmember)
      exact hview (by decide)
    have hshown := get?_member_of_unsent hgroup hother hmember hname haccepts hchanges hfollows
      hself
    have herased := get?_read_erased hgroup hother hmember hname hraw
    rw [Group.undisturbed_iff_of_member allRegular_groups hgroup hmember hsingle, herased]
    refine (Eq.congr_left hshown).trans ?_
    cases group.sends changes with
    | true => simp
    | false => simp

end Globals
end Catalog
end DesiredState
