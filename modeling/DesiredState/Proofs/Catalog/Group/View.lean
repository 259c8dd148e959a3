import DesiredState.Catalog.Group
import DesiredState.Proofs.Attributes
import Mathlib.Data.List.Basic

/-!
# Groups, stored and read back

What a list of groups gathers into nested maps and spreads out again, name by
name.  A device that merges maps only at the top replaces a nested map as a
whole: as soon as one member of a group is sent, the members that are not sent
with it are lost.
-/

namespace DesiredState
namespace Catalog

namespace Group

/-- No member of a group is named twice, inside or outside, and none has the
wire name of the group. -/
def Regular (group : Group) : Prop :=
  (group.members.map Prod.fst).Nodup ∧ (group.members.map Prod.snd).Nodup ∧
    group.wire ∉ group.members.map Prod.fst

instance (group : Group) : Decidable group.Regular :=
  inferInstanceAs (Decidable (_ ∧ _ ∧ _))

/-- The names that a group takes part in: its wire name and its members. -/
def scope (group : Group) : List String :=
  group.wire :: group.members.map Prod.fst

/-- Whether a member of a group is sent. -/
def sends (group : Group) (sent : Attributes) : Bool :=
  group.members.any fun member => sent.contains member.1

/-- What is stored in the nested map of a group. -/
def stored? (group : Group) (held : Attributes) (inner : String) : Option Value :=
  match held.get? group.wire with
  | some (.nested entries) => entries.lookup inner
  | _ => none

variable {group : Group} {body held : Attributes} {logical inner : String}

/-! ## Gathering -/

/-- The nested map has each member that is set under its inner key. -/
theorem get?_nestedOf (hregular : group.Regular) (hmember : (logical, inner) ∈ group.members)
    (body : Attributes) : (group.nestedOf body).get? inner = body.get? logical := by
  obtain ⟨-, hinner, -⟩ := hregular
  rw [nestedOf, Attributes.get?_ofList]
  generalize group.members = members at hmember hinner
  -- no other member has the same inner key
  have hforeign : ∀ rest : List (String × String), inner ∉ rest.map Prod.snd →
      Entries.latest inner (rest.filterMap fun member =>
        (body.get? member.1).map fun value => (member.2, value)) = none := by
    intro rest hfresh
    rw [Entries.latest_eq_none_iff]
    intro hmem
    obtain ⟨⟨known, value⟩, hentry, rfl⟩ := List.mem_map.mp hmem
    obtain ⟨⟨other, key⟩, hother, hfound⟩ := List.mem_filterMap.mp hentry
    obtain ⟨content, -, heq⟩ := Option.map_eq_some_iff.mp hfound
    obtain ⟨rfl, -⟩ := Prod.mk.inj heq
    exact hfresh (List.mem_map_of_mem hother)
  induction members with
  | nil => cases hmember
  | cons first rest ih =>
      obtain ⟨hfresh, hrest⟩ := List.nodup_cons.mp hinner
      rw [List.filterMap_cons]
      rcases List.mem_cons.mp hmember with rfl | hlater
      · cases hvalue : body.get? logical with
        | none => simpa [hvalue] using hforeign rest hfresh
        | some value => simp [hvalue, Entries.latest, hforeign rest hfresh]
      · have hne : first.2 ≠ inner := by
          intro heq
          exact hfresh (heq ▸ List.mem_map_of_mem hlater)
        obtain ⟨name, key⟩ := first
        cases hvalue : body.get? name with
        | none => simpa [hvalue] using ih hlater hrest
        | some value => simpa [hvalue, Entries.latest, hne] using ih hlater hrest

theorem lookup_nestedOf (hregular : group.Regular)
    (hmember : (logical, inner) ∈ group.members) (body : Attributes) :
    (group.nestedOf body).entries.lookup inner = body.get? logical :=
  get?_nestedOf hregular hmember body

/-- The nested map is empty exactly when no member is sent. -/
theorem isEmpty_nestedOf (hregular : group.Regular) (body : Attributes) :
    (group.nestedOf body).isEmpty = !group.sends body := by
  rw [Bool.eq_iff_iff, Attributes.isEmpty_iff, Bool.not_eq_true']
  constructor
  · intro hempty
    rw [sends, List.any_eq_false]
    intro member hmember
    have hnone := hempty member.2
    rw [get?_nestedOf hregular hmember] at hnone
    simp [Attributes.contains, hnone]
  · intro hunsent key
    rw [nestedOf, Attributes.get?_ofList, Entries.latest_eq_none_iff]
    intro hmem
    obtain ⟨entry, hentry, -⟩ := List.mem_map.mp hmem
    obtain ⟨member, hmember, hfound⟩ := List.mem_filterMap.mp hentry
    obtain ⟨value, hvalue, -⟩ := Option.map_eq_some_iff.mp hfound
    rw [sends, List.any_eq_false] at hunsent
    exact hunsent member hmember (Attributes.contains_iff.mpr ⟨value, hvalue⟩)

/-- Unsets members one by one. -/
def eraseMembers (members : List (String × String)) (body : Attributes) : Attributes :=
  members.foldl (fun rest member => rest.erase member.1) body

theorem gather_eq (group : Group) (body : Attributes) :
    group.gather body =
      if (group.nestedOf body).isEmpty then eraseMembers group.members body
      else (eraseMembers group.members body).insert group.wire
        (.nested (group.nestedOf body).entries) :=
  rfl

/-- Unsetting members leaves other names alone. -/
theorem get?_eraseMembers_of_not_mem {members : List (String × String)} {name : String}
    (hname : name ∉ members.map Prod.fst) (body : Attributes) :
    (eraseMembers members body).get? name = body.get? name := by
  induction members generalizing body with
  | nil => rfl
  | cons first rest ih =>
      obtain ⟨hne, hlater⟩ := not_or.mp (mt List.mem_cons.mpr hname)
      exact (ih hlater _).trans (Attributes.get?_erase_of_ne _ hne)

theorem get?_eraseMembers (hdistinct : body.Distinct) (members : List (String × String))
    (name : String) :
    (eraseMembers members body).get? name =
      if name ∈ members.map Prod.fst then none else body.get? name := by
  unfold eraseMembers
  induction members generalizing body with
  | nil => simp
  | cons first rest ih =>
      rw [List.foldl_cons, ih (hdistinct.erase first.1), List.map_cons,
        hdistinct.get?_erase]
      by_cases hname : name = first.1
      · simp [hname]
      · rw [if_neg (Ne.symm hname)]
        simp only [List.mem_cons, or_iff_right hname]

theorem distinct_eraseMembers (hdistinct : body.Distinct)
    (members : List (String × String)) : (eraseMembers members body).Distinct := by
  induction members generalizing body with
  | nil => exact hdistinct
  | cons first rest ih => exact ih (hdistinct.erase first.1)

theorem mem_names_of_eraseMembers {members : List (String × String)} {name : String}
    (h : name ∈ (eraseMembers members body).names) : name ∈ body.names := by
  induction members generalizing body with
  | nil => exact h
  | cons first rest ih => exact Attributes.mem_names_of_erase (ih h)

theorem Distinct.gather (hdistinct : body.Distinct) (group : Group) :
    (group.gather body).Distinct := by
  rw [gather_eq]
  split
  · exact distinct_eraseMembers hdistinct _
  · exact (distinct_eraseMembers hdistinct _).insert _ _

/-- What a group gathers, name by name. -/
theorem get?_gather (hregular : group.Regular) (hdistinct : body.Distinct) (name : String) :
    (group.gather body).get? name =
      if name = group.wire ∧ group.sends body = true then
        some (.nested (group.nestedOf body).entries)
      else if name ∈ group.members.map Prod.fst then none
      else body.get? name := by
  rw [gather_eq, isEmpty_nestedOf hregular]
  cases hsends : group.sends body with
  | false => simp [get?_eraseMembers hdistinct]
  | true =>
      rw [Bool.not_true, if_neg Bool.false_ne_true, Attributes.get?_insert,
        get?_eraseMembers hdistinct]
      by_cases hname : name = group.wire
      · simp [hname]
      · simp [hname, Ne.symm hname]

/-! ## Spreading -/

/-- Sets a member to what a nested map has under its inner key, if anything. -/
def setMember (entries : List (String × Value)) (set : Attributes)
    (member : String × String) : Attributes :=
  match entries.lookup member.2 with
  | some value => set.insert member.1 (numericValue value)
  | none => set

/-- A group is spread by setting its members one by one. -/
theorem spread_of_nested {entries : List (String × Value)}
    (h : held.get? group.wire = some (.nested entries)) :
    group.spread held = group.members.foldl (setMember entries) (held.erase group.wire) := by
  unfold spread
  rw [h]
  rfl

/-- Anything else under the wire name is dropped. -/
theorem spread_of_other (h : ∀ entries, held.get? group.wire ≠ some (.nested entries)) :
    group.spread held = held.erase group.wire := by
  unfold spread
  dsimp only
  split
  · rename_i entries hentries
    exact absurd hentries (h entries)
  · rfl

theorem get?_setMember_of_ne (entries : List (String × Value)) (set : Attributes)
    {name : String} (hname : name ≠ logical) :
    (setMember entries set (logical, inner)).get? name = set.get? name := by
  unfold setMember
  split
  · exact Attributes.get?_insert_of_ne _ hname _
  · rfl

theorem get?_setMember_self (entries : List (String × Value)) (set : Attributes)
    (logical inner : String) :
    (setMember entries set (logical, inner)).get? logical =
      ((entries.lookup inner).map numericValue).or (set.get? logical) := by
  unfold setMember
  cases entries.lookup inner with
  | none => rfl
  | some value => exact Attributes.get?_insert_self _ _ _

/-- Setting members leaves other names alone. -/
theorem get?_setMembers_of_not_mem (entries : List (String × Value))
    {members : List (String × String)} {name : String} (hname : name ∉ members.map Prod.fst)
    (flat : Attributes) : (members.foldl (setMember entries) flat).get? name = flat.get? name := by
  induction members generalizing flat with
  | nil => rfl
  | cons first rest ih =>
      obtain ⟨hne, hlater⟩ := not_or.mp (mt List.mem_cons.mpr hname)
      exact (ih hlater _).trans (get?_setMember_of_ne entries flat hne)

theorem get?_setMembers_of_mem (entries : List (String × Value))
    {members : List (String × String)} (hlogical : (members.map Prod.fst).Nodup)
    (hmember : (logical, inner) ∈ members) (flat : Attributes) :
    (members.foldl (setMember entries) flat).get? logical =
      ((entries.lookup inner).map numericValue).or (flat.get? logical) := by
  induction members generalizing flat with
  | nil => cases hmember
  | cons first rest ih =>
      obtain ⟨hfresh, hrest⟩ := List.nodup_cons.mp hlogical
      rcases List.mem_cons.mp hmember with rfl | hlater
      · exact (get?_setMembers_of_not_mem entries hfresh _).trans
          (get?_setMember_self entries flat logical inner)
      · -- names are distinct, so an earlier member leaves this one alone
        have hne : logical ≠ first.1 := by
          intro heq
          exact hfresh (heq ▸ List.mem_map.mpr ⟨_, hlater, rfl⟩)
        rw [← get?_setMember_of_ne entries flat hne]
        exact ih hrest hlater _

/-- A member is read from the nested map, or else from where it stands. -/
theorem get?_spread_of_mem (hregular : group.Regular)
    (hmember : (logical, inner) ∈ group.members) (held : Attributes) :
    (group.spread held).get? logical =
      ((group.stored? held inner).map numericValue).or (held.get? logical) := by
  obtain ⟨hlogical, -, hwire⟩ := hregular
  have hne : logical ≠ group.wire := by
    rintro rfl
    exact hwire (List.mem_map_of_mem hmember)
  have hflat : (held.erase group.wire).get? logical = held.get? logical :=
    Attributes.get?_erase_of_ne held hne
  by_cases hnested : ∃ entries, held.get? group.wire = some (.nested entries)
  · obtain ⟨entries, hentries⟩ := hnested
    rw [spread_of_nested hentries, stored?, hentries,
      get?_setMembers_of_mem entries hlogical hmember, hflat]
  · have hother : ∀ entries, held.get? group.wire ≠ some (.nested entries) :=
      fun entries hentries => hnested ⟨entries, hentries⟩
    have hnone : group.stored? held inner = none := by
      unfold stored?
      split
      · rename_i entries hentries
        exact absurd hentries (hother entries)
      · rfl
    rw [spread_of_other hother, hflat, hnone]
    rfl

/-- Other names are not touched. -/
theorem get?_spread_of_not_mem {name : String} (hname : name ∉ group.scope)
    (held : Attributes) : (group.spread held).get? name = held.get? name := by
  obtain ⟨hne, hlater⟩ := not_or.mp (mt List.mem_cons.mpr hname)
  have hflat : (held.erase group.wire).get? name = held.get? name :=
    Attributes.get?_erase_of_ne held hne
  by_cases hnested : ∃ entries, held.get? group.wire = some (.nested entries)
  · obtain ⟨entries, hentries⟩ := hnested
    rw [spread_of_nested hentries, get?_setMembers_of_not_mem entries hlater, hflat]
  · rw [spread_of_other fun entries hentries => hnested ⟨entries, hentries⟩, hflat]

theorem distinct_setMembers (entries : List (String × Value))
    (members : List (String × String)) {flat : Attributes} (h : flat.Distinct) :
    (members.foldl (setMember entries) flat).Distinct := by
  induction members generalizing flat with
  | nil => exact h
  | cons first rest ih =>
      refine ih ?_
      unfold setMember
      split
      · exact h.insert _ _
      · exact h

theorem Distinct.spread (hdistinct : held.Distinct) (group : Group) :
    (group.spread held).Distinct := by
  by_cases hnested : ∃ entries, held.get? group.wire = some (.nested entries)
  · obtain ⟨entries, hentries⟩ := hnested
    rw [spread_of_nested hentries]
    exact distinct_setMembers entries _ (hdistinct.erase _)
  · rw [spread_of_other fun entries hentries => hnested ⟨entries, hentries⟩]
    exact hdistinct.erase _

/-- Nothing is left under the wire name. -/
theorem get?_wire_spread (hregular : group.Regular) (hdistinct : held.Distinct) :
    (group.spread held).get? group.wire = none := by
  have herased : (held.erase group.wire).get? group.wire = none := by
    rw [hdistinct.get?_erase, if_pos rfl]
  by_cases hnested : ∃ entries, held.get? group.wire = some (.nested entries)
  · obtain ⟨entries, hentries⟩ := hnested
    rw [spread_of_nested hentries, get?_setMembers_of_not_mem entries hregular.2.2, herased]
  · rw [spread_of_other fun entries hentries => hnested ⟨entries, hentries⟩, herased]

/-! ## Lists of groups -/

/-- Spreads one group after the other. -/
def spreadAll (groups : List Group) (held : Attributes) : Attributes :=
  groups.foldl (fun set group => group.spread set) held

/-- Gathers one group after the other. -/
def gatherAll (groups : List Group) (body : Attributes) : Attributes :=
  groups.foldl (fun set group => group.gather set) body

/-- Every group is regular, and no two of them share a name. -/
def AllRegular (groups : List Group) : Prop :=
  (∀ group ∈ groups, group.Regular) ∧
    groups.Pairwise fun first second => ∀ name ∈ first.scope, name ∉ second.scope

instance (groups : List Group) : Decidable (AllRegular groups) :=
  inferInstanceAs (Decidable (_ ∧ _))

variable {groups : List Group}

theorem mem_scope_of_mem (hmember : (logical, inner) ∈ group.members) :
    logical ∈ group.scope :=
  List.mem_cons_of_mem _ (List.mem_map.mpr ⟨_, hmember, rfl⟩)

theorem stored?_congr {other : Attributes} (h : held.get? group.wire = other.get? group.wire)
    (inner : String) : group.stored? held inner = group.stored? other inner := by
  unfold stored?
  rw [h]

theorem sends_congr {other : Attributes}
    (h : ∀ member ∈ group.members, body.get? member.1 = other.get? member.1) :
    group.sends body = group.sends other := by
  unfold sends
  rw [Bool.eq_iff_iff, List.any_eq_true, List.any_eq_true]
  refine exists_congr fun member => and_congr_right fun hmember => ?_
  rw [Attributes.contains, h member hmember, Attributes.contains]

theorem nestedOf_congr {other : Attributes}
    (h : ∀ member ∈ group.members, body.get? member.1 = other.get? member.1) :
    group.nestedOf body = group.nestedOf other := by
  unfold nestedOf
  congr 1
  refine List.filterMap_congr fun member hmember => ?_
  change (body.get? member.1).map _ = (other.get? member.1).map _
  rw [h member hmember]

theorem get?_spreadAll_of_not_mem {name : String}
    (hname : ∀ group ∈ groups, name ∉ group.scope) (held : Attributes) :
    (spreadAll groups held).get? name = held.get? name := by
  induction groups generalizing held with
  | nil => rfl
  | cons first rest ih =>
      obtain ⟨hfirst, hrest⟩ := List.forall_mem_cons.mp hname
      exact (ih hrest _).trans (get?_spread_of_not_mem hfirst held)

/-- A member is read from the nested map of its group. -/
theorem get?_spreadAll_of_mem (hregular : AllRegular groups) (hgroup : group ∈ groups)
    (hmember : (logical, inner) ∈ group.members) (held : Attributes) :
    (spreadAll groups held).get? logical =
      ((group.stored? held inner).map numericValue).or (held.get? logical) := by
  induction groups generalizing held with
  | nil => cases hgroup
  | cons first rest ih =>
      obtain ⟨hgroups, hapart⟩ := hregular
      obtain ⟨hfirst, hrest⟩ := List.forall_mem_cons.mp hgroups
      obtain ⟨hforeign, hpairwise⟩ := List.pairwise_cons.mp hapart
      have hscope : logical ∈ group.scope := mem_scope_of_mem hmember
      -- the groups before and after share no name with this one
      rcases List.mem_cons.mp hgroup with rfl | hlater
      · refine (get?_spreadAll_of_not_mem (fun other hother =>
          hforeign other hother logical hscope) _).trans ?_
        exact get?_spread_of_mem hfirst hmember held
      · have hapartFirst : ∀ name ∈ group.scope, name ∉ first.scope :=
          fun name hname hother => hforeign group hlater name hother hname
        refine (ih ⟨hrest, hpairwise⟩ hlater _).trans ?_
        have hwire : group.wire ∈ group.scope := List.mem_cons_self
        rw [stored?_congr (get?_spread_of_not_mem (hapartFirst _ hwire) held),
          get?_spread_of_not_mem (hapartFirst _ hscope) held]

theorem distinct_spreadAll (hdistinct : held.Distinct) (groups : List Group) :
    (spreadAll groups held).Distinct := by
  induction groups generalizing held with
  | nil => exact hdistinct
  | cons first rest ih => exact ih (Distinct.spread hdistinct first)

/-- Nothing is left under the wire name of any of the groups. -/
theorem get?_wire_spreadAll (hregular : AllRegular groups) (hgroup : group ∈ groups)
    (hdistinct : held.Distinct) : (spreadAll groups held).get? group.wire = none := by
  induction groups generalizing held with
  | nil => cases hgroup
  | cons first rest ih =>
      obtain ⟨hgroups, hapart⟩ := hregular
      obtain ⟨hfirst, hrest⟩ := List.forall_mem_cons.mp hgroups
      obtain ⟨hforeign, hpairwise⟩ := List.pairwise_cons.mp hapart
      rcases List.mem_cons.mp hgroup with rfl | hlater
      · -- the groups after it leave its wire name alone
        refine (get?_spreadAll_of_not_mem (fun other hother =>
          hforeign other hother group.wire List.mem_cons_self) _).trans ?_
        exact get?_wire_spread hfirst hdistinct
      · exact ih ⟨hrest, hpairwise⟩ hlater (Distinct.spread hdistinct first)

theorem get?_gather_of_not_mem {name : String} (hname : name ∉ group.scope)
    (body : Attributes) : (group.gather body).get? name = body.get? name := by
  obtain ⟨hne, hlater⟩ := not_or.mp (mt List.mem_cons.mpr hname)
  have hflat := get?_eraseMembers_of_not_mem hlater body
  rw [gather_eq]
  split
  · exact hflat
  · exact (Attributes.get?_insert_of_ne _ hne _).trans hflat

theorem distinct_gatherAll (hdistinct : body.Distinct) (groups : List Group) :
    (gatherAll groups body).Distinct := by
  induction groups generalizing body with
  | nil => exact hdistinct
  | cons first rest ih => exact ih (Distinct.gather hdistinct first)

theorem get?_gatherAll_of_not_mem {name : String} (hname : ∀ group ∈ groups, name ∉ group.scope)
    (body : Attributes) : (gatherAll groups body).get? name = body.get? name := by
  induction groups generalizing body with
  | nil => rfl
  | cons first rest ih =>
      obtain ⟨hfirst, hrest⟩ := List.forall_mem_cons.mp hname
      exact (ih hrest _).trans (get?_gather_of_not_mem hfirst body)

/-- What is gathered under the names of one of the groups. -/
theorem get?_gatherAll_of_mem (hregular : AllRegular groups) (hgroup : group ∈ groups)
    (hdistinct : body.Distinct) {name : String} (hname : name ∈ group.scope) :
    (gatherAll groups body).get? name = (group.gather body).get? name := by
  induction groups generalizing body with
  | nil => cases hgroup
  | cons first rest ih =>
      obtain ⟨hgroups, hapart⟩ := hregular
      obtain ⟨hfirst, hrest⟩ := List.forall_mem_cons.mp hgroups
      obtain ⟨hforeign, hpairwise⟩ := List.pairwise_cons.mp hapart
      rcases List.mem_cons.mp hgroup with rfl | hlater
      · exact get?_gatherAll_of_not_mem (fun other hother => hforeign other hother name hname) _
      · -- gathering another group leaves the names of this one alone
        have hkept : ∀ other ∈ group.scope, (first.gather body).get? other = body.get? other :=
          fun other hother => get?_gather_of_not_mem
            (fun hshared => hforeign group hlater other hshared hother) body
        have hmembers : ∀ member ∈ group.members,
            (first.gather body).get? member.1 = body.get? member.1 :=
          fun member hmember => hkept _ (mem_scope_of_mem hmember)
        refine (ih ⟨hrest, hpairwise⟩ hlater (Distinct.gather hdistinct first)).trans ?_
        rw [get?_gather (hrest group hlater) (Distinct.gather hdistinct first),
          get?_gather (hrest group hlater) hdistinct, sends_congr hmembers,
          nestedOf_congr hmembers, hkept name hname]

/-- What is read of a member after a group was sent over a base: what was sent
of the whole group if any of it was, and what was stored otherwise. -/
theorem get?_spreadAll_of_gatherAll (hregular : AllRegular groups) (hgroup : group ∈ groups)
    {sent base view : Attributes} (hdistinct : sent.Distinct)
    (hunsent : sent.get? group.wire = none)
    (hview : ∀ name ∈ group.scope, view.get? name =
      ((gatherAll groups sent).get? name).or (base.get? name))
    (hmember : (logical, inner) ∈ group.members) :
    (spreadAll groups view).get? logical =
      if group.sends sent then ((sent.get? logical).map numericValue).or (base.get? logical)
      else (spreadAll groups base).get? logical := by
  have hgroupRegular := hregular.1 group hgroup
  have hlogical : logical ∈ group.members.map Prod.fst := List.mem_map.mpr ⟨_, hmember, rfl⟩
  have hne : logical ≠ group.wire := fun heq => hgroupRegular.2.2 (heq ▸ hlogical)
  have hgathered := fun name hname =>
    (hview name hname).trans (by rw [get?_gatherAll_of_mem hregular hgroup hdistinct hname,
      get?_gather hgroupRegular hdistinct])
  -- members are gathered, so none is sent under its own name
  have hflat : view.get? logical = base.get? logical := by
    rw [hgathered logical (mem_scope_of_mem hmember), if_neg (fun hboth => hne hboth.1),
      if_pos hlogical, Option.none_or]
  rw [get?_spreadAll_of_mem hregular hgroup hmember,
    get?_spreadAll_of_mem hregular hgroup hmember, hflat]
  have hwire := hgathered group.wire List.mem_cons_self
  cases hsends : group.sends sent with
  | true =>
      rw [if_pos ⟨rfl, hsends⟩, Option.some_or] at hwire
      rw [if_pos rfl, stored?, hwire]
      simp only [lookup_nestedOf hgroupRegular hmember]
  | false =>
      rw [if_neg (by simp [hsends]), if_neg hgroupRegular.2.2, hunsent, Option.none_or] at hwire
      rw [if_neg Bool.false_ne_true, stored?_congr hwire]

/-- The names that are gathered are those of the body and the wire names. -/
theorem mem_names_of_gatherAll {name : String} (h : name ∈ (gatherAll groups body).names) :
    name ∈ body.names ∨ name ∈ groups.map wire := by
  induction groups generalizing body with
  | nil => exact Or.inl h
  | cons first rest ih =>
      rcases ih h with hfirst | hlater
      · change name ∈ (first.gather body).names at hfirst
        rw [gather_eq] at hfirst
        split at hfirst
        · exact Or.inl (mem_names_of_eraseMembers hfirst)
        · rcases Attributes.mem_names_of_insert hfirst with heq | hbody
          · exact Or.inr (List.mem_cons.mpr (Or.inl heq))
          · exact Or.inl (mem_names_of_eraseMembers hbody)
      · exact Or.inr (List.mem_cons_of_mem _ hlater)

end Group
end Catalog
end DesiredState
