import DesiredState.Proofs.Catalog.Globals.View
import DesiredState.Proofs.Catalog.Group.Repetition
import DesiredState.Proofs.Pass.Stored

/-!
# The attributes of the global settings

How each setting is judged, what a view shows of it after some settings were
sent, and what can be wanted of it.  No setting has an alias, so nothing is
ever shadowed.
-/

namespace DesiredState
namespace Catalog
namespace Globals

/-! ## The fields -/

theorem nodup_names : schema.names.Nodup := by decide

theorem fields_consistent : ∀ field ∈ schema.fields, field.Consistent := by decide

theorem fields_single : ∀ field ∈ schema.fields, field.comparison.partner? = none := by decide

/-- The names under which settings are written and read. -/
def followed : List String := "self_allow_all" :: groups.flatMap Group.scope

theorem bare_of_mem_followed : ∀ name ∈ followed, kind.Bare name := by decide

theorem wires_undeclared : ∀ group ∈ groups, group.wire ∉ schema.names ∧
    schema.field? group.wire = none ∧ group.wire ∉ preparedNames := by
  decide

/-- Every declared name but the wish for all or no ports is in a group. -/
theorem names_grouped : ∀ name ∈ schema.names, name = "self_allow_all" ∨
    ∃ group ∈ groups, ∃ member ∈ group.members, member.1 = name := by
  decide

/-- Members that are not prepared are compared exactly, and come back from a
nested map unless they are free texts. -/
theorem fields_grouped : ∀ field ∈ schema.fields, field.name ∉ preparedNames →
    field.comparison = .exact ∧
      (field.shape.Unnumbered ∨ field.name ∈ ["stp_config_name", "stp_description"]) := by
  decide

/-- A member of a group is a flag of LLDP, the port lockdown, or declared and not
prepared. -/
theorem member_cases : ∀ group ∈ groups, ∀ member ∈ group.members,
    member.1 = "lldp_disabled" ∨ (group = lldp ∧ member.1 = "lldp_enabled") ∨
      (group = lockdown ∧ member.1 = "self_allow_defaults") ∨
        (member.1 ∈ schema.names ∧ member.1 ∉ preparedNames) := by
  decide

theorem texts_unprepared : ∀ name ∈ ["stp_config_name", "stp_description"],
    name ∈ schema.names ∧ name ≠ "self_allow_all" ∧ name ∉ preparedNames := by
  decide

theorem enabled_declared : schema.field? "lldp_enabled" = some (Field.flag "lldp_enabled") :=
  rfl

theorem all_declared : schema.field? "self_allow_all" = some (Field.flag "self_allow_all") :=
  rfl

theorem defaults_declared :
    schema.field? "self_allow_defaults" =
      some { name := "self_allow_defaults", shape := .keywordOrList ["all", "none"] } :=
  rfl

/-- None of the keywords of the port lockdown spells a number. -/
theorem numericValue_defaults {value : Value}
    (h : (Shape.keywordOrList ["all", "none"]).Holds value) : numericValue value = value := by
  cases value with
  | text keyword =>
      have hkeyword : keyword ∈ ["all", "none"] := h
      have hunnumbered : ∀ keyword ∈ ["all", "none"], Text.readInt64 keyword = none := by decide
      exact numericValue_text (hunnumbered keyword hkeyword)
  | _ => rfl

/-- Reader and writer of the kind are opened by name, as unfolding them in place
takes the groups apart. -/
theorem writer_eq : kind.writer = write := by
  simp only [kind]

theorem read_kind_eq (raw : Attributes) : kind.read raw = read (schema.ofWire raw) := by
  simp only [ResourceKind.read, kind]

theorem aliases_eq : schema.aliases.pairs = [] := by decide

theorem plain (name : String) : schema.Plain name := by
  intro pair hpair
  rw [aliases_eq] at hpair
  cases hpair

theorem pairsMutually : schema.PairsMutually schema.names :=
  Schema.pairsMutually_of_partners nodup_names (by decide)

theorem faithful : kind.Faithful where
  updatable := rfl
  paired := pairsMutually
  writes := by
    intro body hdistinct _
    rw [writer_eq]
    exact ⟨distinct_write hdistinct, fun name _ => (plain name).returns⟩
  named := plain _
  flagged := by
    intro flags hflags
    cases hflags

theorem immediate : kind.Immediate where
  jobless := fun _ => rfl
  flagged := by
    intro flags hflags
    cases hflags
  writesNothing := rfl
  kept := fun _ => rfl

/-! ## What is read back -/

section Follows

variable {sent base view : Attributes}

/-- What the groups show of a member: what was prepared if any of its group was
sent, and what was stored otherwise. -/
theorem get?_member_of_follows (h : kind.Follows followed sent base view) {group : Group}
    (hgroup : group ∈ groups) {logical inner : String}
    (hmember : (logical, inner) ∈ group.members) :
    (Group.spreadAll groups view).get? logical =
      if group.sends (prepared sent) then
        (((prepared sent).get? logical).map numericValue).or (base.get? logical)
      else (Group.spreadAll groups base).get? logical := by
  obtain ⟨hundeclared, hfield, hunprepared⟩ := wires_undeclared group hgroup
  have hunsent : (prepared sent).get? group.wire = none := by
    rw [get?_prepared_of_not_mem hunprepared]
    exact h.get?_eq_none hundeclared
  refine Group.get?_spreadAll_of_written allRegular_groups hgroup hfield
    (distinct_prepared h.distinct) hunsent (fun name hname => ?_) hmember
  have hview := h.get?_eq name
    (List.mem_cons_of_mem _ (List.mem_flatMap.mpr ⟨group, hgroup, hname⟩))
  rwa [writer_eq, write_eq] at hview

/-- The wish for all or no ports is never stored as such. -/
theorem get?_all_of_follows (h : kind.Follows followed sent base view) :
    view.get? "self_allow_all" = base.get? "self_allow_all" := by
  have hwritten : (kind.writer sent).get? "self_allow_all" = none := by
    rw [writer_eq, get?_write_of_not_mem not_mem_scope_of_all, get?_all_prepared h.distinct]
  rw [h.get?_eq _ List.mem_cons_self, hwritten, Option.map_none, Option.none_or]

/-- A port lockdown that was prepared is shown. -/
theorem get?_defaults_of_prepared (h : kind.Follows followed sent base view) {value : Value}
    (hprepared : (prepared sent).get? "self_allow_defaults" = some value) :
    (Group.spreadAll groups view).get? "self_allow_defaults" = some (numericValue value) := by
  have hcontains : (prepared sent).contains "self_allow_defaults" = true :=
    Attributes.contains_iff.mpr ⟨value, hprepared⟩
  rw [get?_member_of_follows h lockdown_mem_groups List.mem_cons_self,
    if_pos (Group.sends_of_contains List.mem_cons_self hcontains), hprepared, Option.map_some,
    Option.some_or]

/-- When no port lockdown was prepared, it is shown as before. -/
theorem get?_defaults_of_unprepared (h : kind.Follows followed sent base view)
    (hprepared : (prepared sent).get? "self_allow_defaults" = none) :
    (Group.spreadAll groups view).get? "self_allow_defaults" =
      (Group.spreadAll groups base).get? "self_allow_defaults" := by
  have hunsent : lockdown.sends (prepared sent) = false := by
    simp [Group.sends, lockdown, Attributes.contains, hprepared]
  rw [get?_member_of_follows h lockdown_mem_groups List.mem_cons_self,
    if_neg (by simp [hunsent])]

end Follows

/-! ## What is wanted -/

variable {params want : Attributes} {partition : String} {target : Target}

theorem ordinary (h : kind.Accepts partition params target want) {field : Field}
    (hfield : field ∈ schema.fields) : schema.Ordinary want field.name field :=
  Schema.ordinary_of_want nodup_names h.normal hfield (fields_single field hfield)
    (fields_consistent field hfield)

theorem enabled_ordinary (h : kind.Accepts partition params target want) :
    schema.Ordinary want "lldp_enabled" (Field.flag "lldp_enabled") := by
  have hfield : Field.flag "lldp_enabled" ∈ schema.fields :=
    List.mem_of_find?_eq_some enabled_declared
  exact ordinary h hfield

theorem all_ordinary (h : kind.Accepts partition params target want) :
    schema.Ordinary want "self_allow_all" (Field.flag "self_allow_all") := by
  have hfield : Field.flag "self_allow_all" ∈ schema.fields :=
    List.mem_of_find?_eq_some all_declared
  exact ordinary h hfield

theorem defaults_ordinary (h : kind.Accepts partition params target want) :
    schema.Ordinary want "self_allow_defaults"
      { name := "self_allow_defaults", shape := .keywordOrList ["all", "none"] } :=
  ordinary h (List.mem_of_find?_eq_some defaults_declared)

/-- The wish for all or no ports is not wanted with a port lockdown. -/
theorem unconflicting (h : kind.Accepts partition params target want) {all : Value}
    (hall : want.get? "self_allow_all" = some all) :
    want.get? "self_allow_defaults" = none := by
  have hgiven : ∀ {name : String} {value : Value}, want.get? name = some value →
      params.contains name = true := by
    intro name value hvalue
    obtain ⟨field, -, rfl, given, hgiven, -⟩ := Schema.normalized_of_want h.normal hvalue
    exact Attributes.contains_iff.mpr ⟨given, hgiven⟩
  have hrefused := h.unconflicting _ List.mem_cons_self (hgiven hall)
  cases hdefaults : want.get? "self_allow_defaults" with
  | none => rfl
  | some defaults =>
      rw [hgiven hdefaults] at hrefused
      cases hrefused

end Globals
end Catalog
end DesiredState
