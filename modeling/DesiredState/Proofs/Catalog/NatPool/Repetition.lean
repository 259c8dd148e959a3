import DesiredState.Proofs.Catalog.NatPool.Fields
import DesiredState.Proofs.Pass.Repetition
import DesiredState.Proofs.WellFormed

/-!
# Repeating a work order for a NAT pool

A port range that is sent comes back unless its low end is negative, which only
a stored end can be.  What keeps an update from lasting is a nested map that is
sent in part, since the device stores the part for the whole; a value that is
shadowed; and a log publisher that is cleared while a log profile is set.  A
creation drops a persistence mode of `none`, and does not look for the
publisher that a profile needs.
-/

namespace DesiredState
namespace Catalog
namespace NatPool

/-- What makes a creation last. -/
structure CreationLasts (want : Attributes) : Prop where
  /-- The persistence mode is not wanted cleared. -/
  mode : want.clears "persistence_mode" = false
  /-- A log profile is wanted with a publisher only. -/
  publisher : want.isSet "log_profile" = true → want.isSet "log_publisher" = true

/-- What makes an update last. -/
structure UpdateLasts (want raw changes : Attributes) : Prop where
  /-- Nothing that is sent is shadowed by another stored entry. -/
  unshadowed : schema.Unshadowed changes raw
  /-- The log publisher is not cleared while a log profile is set. -/
  uncleared : ¬(want.clears "log_publisher" = true ∧ want.isSet "log_profile" = true)
  /-- No group is sent in part. -/
  groups : ∀ group ∈ groups, group.Kept want (schema.ofWire raw) changes
  /-- The low end that is sent is not negative. -/
  range : ∀ low, changes.int? "port_range_low" = some low → 0 ≤ low

instance (want : Attributes) : Decidable (CreationLasts want) :=
  decidable_of_iff (_ ∧ _) ⟨fun h => ⟨h.1, h.2⟩, fun h => ⟨h.mode, h.publisher⟩⟩

instance (want raw changes : Attributes) : Decidable (UpdateLasts want raw changes) :=
  decidable_of_iff (_ ∧ _ ∧ _ ∧ _)
    ⟨fun h => ⟨h.1, h.2.1, h.2.2.1, h.2.2.2⟩,
      fun h => ⟨h.unshadowed, h.uncleared, h.groups, h.range⟩⟩

/-! ## Updates -/

variable {pass : Pass} {params want raw changes created view : Attributes}
  {partition : String} {target : Target}

/-- An end of the range that is read has 64 bits. -/
theorem fits_of_get?_read (hraw : raw.WellFormed) {name : String}
    (hname : name = "port_range_low" ∨ name = "port_range_high") {port : Int}
    (hport : (kind.read raw).get? name = some (.int port)) : Text.fitsInt64 port = true := by
  -- an end is read from the range, or else from where it stands
  cases hsplit : ((schema.ofWire raw).text? rangeWire).bind splitRange with
  | some ends =>
      obtain ⟨low, high⟩ := ends
      obtain ⟨hlow, hhigh⟩ := get?_read_of_splitRange _ hsplit
      obtain ⟨range, -, hcut⟩ := Option.bind_eq_some_iff.mp hsplit
      obtain ⟨hfitsLow, hfitsHigh⟩ := fits_of_splitRange hcut
      rcases hname with rfl | rfl
      · obtain rfl := Value.int.inj (Option.some.inj (hlow.symm.trans hport))
        exact hfitsLow
      · obtain rfl := Value.int.inj (Option.some.inj (hhigh.symm.trans hport))
        exact hfitsHigh
  | none =>
      obtain ⟨hlow, hhigh⟩ := get?_read_of_splitRange_eq_none _ hsplit
      have hplain : ∀ name ∈ rangeNames, schema.Plain name := by decide
      rcases hname with rfl | rfl
      · exact (hplain _ (by decide)).fits_of_get?_ofWire hraw (hlow.symm.trans hport)
      · exact (hplain _ (by decide)).fits_of_get?_ofWire hraw (hhigh.symm.trans hport)

section Differing

variable (haccepts : kind.Accepts partition params target want)
  (hsent : ∀ name, name = "port_range_low" ∨ name = "port_range_high" →
    changes.get? name = (want.get? name).or ((kind.read raw).get? name))

include haccepts hsent

theorem fits_of_sent_end (hraw : raw.WellFormed) {name : String}
    (hname : name = "port_range_low" ∨ name = "port_range_high") {port : Int}
    (hport : changes.get? name = some (.int port)) : Text.fitsInt64 port = true := by
  rw [hsent name hname] at hport
  cases hwanted : want.get? name with
  | some wanted =>
      obtain ⟨number, rfl, hbounds⟩ := int_of_end haccepts hname hwanted
      rw [hwanted, Option.some_or] at hport
      exact Value.int.inj (Option.some.inj hport) ▸ fits_of_port hbounds
  | none =>
      rw [hwanted, Option.none_or] at hport
      exact fits_of_get?_read hraw hname hport

/-- The end that differs is wanted, so it is sent as a number. -/
theorem int?_ne_none_of_differs {name : String}
    (hname : name = "port_range_low" ∨ name = "port_range_high")
    (hdiffers : Schema.differs want (kind.read raw) name = true) :
    changes.int? name ≠ none := by
  obtain ⟨wanted, hwanted⟩ := Schema.wanted_of_differs hdiffers
  obtain ⟨port, rfl, -⟩ := int_of_end haccepts hname hwanted
  rw [Attributes.int?_eq_some_iff.mpr (by rw [hsent name hname, hwanted, Option.some_or])]
  exact Option.some_ne_none port

/-- One of the ends is sent as a number. -/
theorem ends_of_differs
    (hdiffers : (Schema.differs want (kind.read raw) "port_range_low" ||
      Schema.differs want (kind.read raw) "port_range_high") = true) :
    changes.int? "port_range_low" ≠ none ∨ changes.int? "port_range_high" ≠ none := by
  rcases Bool.or_eq_true_iff.mp hdiffers with hlow | hhigh
  · exact Or.inl (int?_ne_none_of_differs haccepts hsent (Or.inl rfl) hlow)
  · exact Or.inr (int?_ne_none_of_differs haccepts hsent (Or.inr rfl) hhigh)

/-- A negative low end is one that was stored beside a range that cannot be
split. -/
theorem read_of_negative {low : Int} (hint : changes.int? "port_range_low" = some low)
    (hneg : low < 0) :
    ∀ name, name = "port_range_low" ∨ name = "port_range_high" →
      (kind.read raw).get? name = (schema.ofWire raw).get? name := by
  have hlow := hsent "port_range_low" (Or.inl rfl)
  rw [Attributes.int?_eq_some_iff.mp hint] at hlow
  have hheld : (kind.read raw).get? "port_range_low" = some (.int low) := by
    cases hwanted : want.get? "port_range_low" with
    | none => rw [hlow, hwanted, Option.none_or]
    | some wanted =>
        obtain ⟨port, rfl, hbound, -⟩ := int_of_end haccepts (Or.inl rfl) hwanted
        rw [hwanted, Option.some_or] at hlow
        obtain rfl := Value.int.inj (Option.some.inj hlow)
        omega
  cases hsplit : ((schema.ofWire raw).text? rangeWire).bind splitRange with
  | some ends =>
      obtain ⟨front, back⟩ := ends
      obtain ⟨range, -, hcut⟩ := Option.bind_eq_some_iff.mp hsplit
      obtain ⟨hread, -⟩ := get?_read_of_splitRange _ hsplit
      obtain rfl := Value.int.inj (Option.some.inj (hread.symm.trans hheld))
      exact absurd (nonneg_of_splitRange hcut) (Int.not_le.mpr hneg)
  | none =>
      obtain ⟨hbaseLow, hbaseHigh⟩ := get?_read_of_splitRange_eq_none _ hsplit
      rintro name (rfl | rfl)
      · exact hbaseLow
      · exact hbaseHigh

/-- When a negative low end is sent, the ends are left as they were and differ
again. -/
theorem not_quiet_of_negative (hfollows : kind.Follows followed changes (schema.ofWire raw) view)
    (hdiffers : (Schema.differs want (kind.read raw) "port_range_low" ||
      Schema.differs want (kind.read raw) "port_range_high") = true) {low : Int}
    (hint : changes.int? "port_range_low" = some low) (hneg : low < 0) :
    ¬(schema.changesAt want (read view) "port_range_low" = .ok [] ∧
      schema.changesAt want (read view) "port_range_high" = .ok []) := by
  have hrange := range?_eq_some (ends_of_differs haccepts hsent hdiffers)
  rw [hint, Option.getD_some] at hrange
  obtain ⟨hreadLow, hreadHigh⟩ := read_of_negative_range hfollows hrange hneg
  have hstored := read_of_negative haccepts hsent hint hneg
  -- the ends show what was read before, which differed
  rw [Schema.changesAt_pair_kept_iff rfl rfl (hreadLow.trans (hstored _ (Or.inl rfl)).symm)
    (hreadHigh.trans (hstored _ (Or.inr rfl)).symm), hdiffers]
  exact nofun

end Differing

/-- After an update the range is quiet exactly when no negative low end was
sent. -/
theorem quiet_range_updated_iff (haccepts : kind.Accepts partition params target want)
    (hraw : raw.WellFormed) (hchanges : kind.changes want (kind.read raw) = .ok changes)
    (hfollows : kind.Follows followed changes (schema.ofWire raw) view) :
    (schema.changesAt want (read view) "port_range_low" = .ok [] ∧
        schema.changesAt want (read view) "port_range_high" = .ok []) ↔
      ∀ low, changes.int? "port_range_low" = some low → 0 ≤ low := by
  have hpaired : kind.schema.comparison "port_range_low" = .paired "port_range_high" := rfl
  have hends := faithful.get?_changes_of_pair hchanges (by decide) hpaired
  by_cases hdiffers : (Schema.differs want (kind.read raw) "port_range_low" ||
      Schema.differs want (kind.read raw) "port_range_high") = true
  · simp only [if_pos hdiffers] at hends
    by_cases hsign : ∀ low, changes.int? "port_range_low" = some low → 0 ≤ low
    · refine iff_of_true (quiet_of_range haccepts hfollows (fun name hname wanted hwanted => ?_)
        (fun name hname _ => fits_of_sent_end haccepts hends hraw hname)
        (ends_of_differs haccepts hends hdiffers) hsign) hsign
      rw [hends name hname, hwanted, Option.some_or]
    · refine iff_of_false ?_ hsign
      simp only [not_forall] at hsign
      obtain ⟨low, hint, hneg⟩ := hsign
      exact not_quiet_of_negative haccepts hends hfollows hdiffers hint (Int.not_le.mp hneg)
  · simp only [if_neg hdiffers] at hends
    have hnone : range? changes = none := by
      rw [range?, Attributes.int?, hends _ (Or.inl rfl), Attributes.int?, hends _ (Or.inr rfl)]
      rfl
    obtain ⟨hreadLow, hreadHigh⟩ := read_of_no_range hfollows hnone
    refine iff_of_true ?_ ?_
    · exact (Schema.changesAt_pair_kept_iff rfl rfl hreadLow hreadHigh).mpr
        (Bool.eq_false_iff.mpr hdiffers)
    · intro low hint
      rw [Attributes.int?, hends _ (Or.inl rfl)] at hint
      cases hint

/-- After an update the members of a group are quiet exactly when the group is
kept. -/
theorem quiet_member_updated_iff (haccepts : kind.Accepts partition params target want)
    (hchanges : kind.changes want (kind.read raw) = .ok changes)
    (hfollows : kind.Follows followed changes (schema.ofWire raw) view) {group : Group}
    (hgroup : group ∈ groups) {logical inner : String}
    (hmember : (logical, inner) ∈ group.members) :
    schema.changesAt want (read view) logical = .ok [] ↔
      (group.sends changes = true → changes.contains logical = false →
        ∀ wanted, want.get? logical = some wanted →
          sameOption ((schema.ofWire raw).get? logical) (some wanted) = true) := by
  have hscope : logical ∈ group.scope := Group.mem_scope_of_mem hmember
  have hname := members_declared group hgroup _ hmember
  obtain ⟨field, hfield, rfl⟩ := List.mem_map.mp hname
  obtain ⟨hexact, hunnumbered⟩ := fields_grouped field hfield group hgroup hscope
  have hordinary := ordinary haccepts hfield fun hrange =>
    not_mem_scope_of_range _ hrange group hgroup hscope
  rw [Group.quiet_member_iff hmember hordinary hexact pairsMutually hname hchanges
    (get?_member_of_follows hfollows hgroup hmember)]
  refine and_iff_right fun value hsent => ?_
  exact numericValue_of_holds hunnumbered
    (hordinary.holds_of_sent pairsMutually hname hchanges hsent)

/-! ## Creations -/

theorem get?_created (hcreated : kind.creation want = .ok created) {name : String}
    (hname : name ∈ schema.names) :
    created.get? name = (want.get? name).filter fun value => !value.isClear :=
  ResourceKind.get?_of_creation_of_no_defaults hcreated rfl hname

/-- Over nothing a member of a group is shown as it is sent, unless it is sent as a
text that spells a number. -/
theorem get?_member_of_empty {sent : Attributes}
    (hfollows : kind.Follows followed sent .empty view) {group : Group}
    (hgroup : group ∈ groups) {logical inner : String}
    (hmember : (logical, inner) ∈ group.members)
    (hnormal : ∀ value, sent.get? logical = some value → numericValue value = value) :
    (read view).get? logical = sent.get? logical := by
  have hscope : logical ∈ group.scope := Group.mem_scope_of_mem hmember
  have hempty : (read .empty).get? logical = none := by
    rw [get?_read_of_not_range .empty fun hrange =>
      not_mem_scope_of_range _ hrange group hgroup hscope]
    exact Group.get?_spreadAll_of_mem allRegular_groups hgroup hmember .empty
  rw [get?_member_of_follows hfollows hgroup hmember, hempty, Attributes.get?_empty,
    Option.or_none]
  cases hsent : sent.get? logical with
  | none => split <;> rfl
  | some value =>
      have hcontains : sent.contains logical = true :=
        Attributes.contains_iff.mpr ⟨value, hsent⟩
      rw [if_pos (Group.sends_of_contains hmember hcontains), Option.map_some,
        hnormal value hsent]

/-- A member of a group is created as it is wanted, unless it is wanted cleared. -/
theorem get?_member_created (haccepts : kind.Accepts partition params target want)
    (hcreated : kind.creation want = .ok created)
    (hfollows : kind.Follows followed created .empty view) {group : Group}
    (hgroup : group ∈ groups) {logical inner : String}
    (hmember : (logical, inner) ∈ group.members) :
    (read view).get? logical = (want.get? logical).filter fun value => !value.isClear := by
  have hscope : logical ∈ group.scope := Group.mem_scope_of_mem hmember
  have hname := members_declared group hgroup _ hmember
  obtain ⟨field, hfield, rfl⟩ := List.mem_map.mp hname
  obtain ⟨-, hunnumbered⟩ := fields_grouped field hfield group hgroup hscope
  have hordinary := ordinary haccepts hfield fun hrange =>
    not_mem_scope_of_range _ hrange group hgroup hscope
  rw [← get?_created hcreated hname]
  refine get?_member_of_empty hfollows hgroup hmember fun value hsent => ?_
  rw [get?_created hcreated hname] at hsent
  exact numericValue_of_holds hunnumbered
    (hordinary.holds value (Option.filter_eq_some_iff.mp hsent).1)

/-- A creation sends the ends of the range as they are wanted. -/
theorem get?_end_created (haccepts : kind.Accepts partition params target want)
    (hcreated : kind.creation want = .ok created) {name : String}
    (hname : name = "port_range_low" ∨ name = "port_range_high") :
    created.get? name = want.get? name := by
  have hdeclared : name ∈ schema.names := by
    rcases hname with rfl | rfl <;> decide
  rw [get?_created hcreated hdeclared]
  cases hwanted : want.get? name with
  | none => rfl
  | some wanted =>
      obtain ⟨port, rfl, -⟩ := int_of_end haccepts hname hwanted
      rfl

/-- After a creation the range is quiet. -/
theorem quiet_range_created (haccepts : kind.Accepts partition params target want)
    (hcreated : kind.creation want = .ok created)
    (hfollows : kind.Follows followed created .empty view) :
    schema.changesAt want (read view) "port_range_low" = .ok [] ∧
      schema.changesAt want (read view) "port_range_high" = .ok [] := by
  have hcopied : ∀ name, name = "port_range_low" ∨ name = "port_range_high" →
      created.int? name = want.int? name := by
    intro name hname
    rw [Attributes.int?, get?_end_created haccepts hcreated hname, Attributes.int?]
  have hbounds : ∀ name, name = "port_range_low" ∨ name = "port_range_high" →
      ∀ port, created.int? name = some port → 0 ≤ port ∧ port ≤ 65535 := by
    intro name hname port hport
    rw [hcopied name hname] at hport
    exact port_of_end haccepts hname hport
  by_cases hnone : created.int? "port_range_low" = none ∧
      created.int? "port_range_high" = none
  · -- nothing is wanted of the range
    have hunwanted : ∀ name, name = "port_range_low" ∨ name = "port_range_high" →
        created.int? name = none → want.get? name = none := by
      intro name hname hint
      rw [hcopied name hname] at hint
      exact (int?_end_eq_none_iff haccepts hname).mp hint
    rw [quiet_range_iff haccepts, hunwanted _ (Or.inl rfl) hnone.1,
      hunwanted _ (Or.inr rfl) hnone.2]
    constructor
    · intro wanted hlow
      cases hlow
    · intro wanted hhigh
      cases hhigh
  · refine quiet_of_range haccepts hfollows (fun name hname wanted hwanted => ?_)
      (fun name hname port hport =>
        fits_of_port (hbounds name hname port (Attributes.int?_eq_some_iff.mpr hport)))
      (not_and_or.mp hnone) fun low hint => (hbounds _ (Or.inl rfl) low hint).1
    rw [get?_end_created haccepts hcreated hname, hwanted]

/-- After a creation a member of a group is quiet unless it was wanted cleared. -/
theorem quiet_member_created_iff (haccepts : kind.Accepts partition params target want)
    (hcreated : kind.creation want = .ok created)
    (hfollows : kind.Follows followed created .empty view) {group : Group}
    (hgroup : group ∈ groups) {logical inner : String}
    (hmember : (logical, inner) ∈ group.members) :
    schema.changesAt want (read view) logical = .ok [] ↔ want.clears logical = false := by
  have hscope : logical ∈ group.scope := Group.mem_scope_of_mem hmember
  obtain ⟨field, hfield, rfl⟩ := List.mem_map.mp (members_declared group hgroup _ hmember)
  obtain ⟨hexact, -⟩ := fields_grouped field hfield group hgroup hscope
  have hordinary := ordinary haccepts hfield fun hrange =>
    not_mem_scope_of_range _ hrange group hgroup hscope
  have hread := get?_member_created haccepts hcreated hfollows hgroup hmember
  rw [hordinary.changesAt_dropped_iff (by simp [hexact]) hread]
  simp [hexact, Comparison.forgives]

/-! ## The dependency -/

/-- A log profile needs a log publisher. -/
def publishing : Dependency := ⟨"log_publisher", "log_profile", true⟩

/-- The names of the dependency are optional references that pass reader and
writer. -/
theorem fields_publishing : ∀ name ∈ [publishing.required, publishing.dependent],
    ∃ field ∈ schema.fields, field.name = name ∧ field.comparison = .optionalText ∧
      name ∉ rangeNames ∧ ∀ group ∈ groups, name ∉ group.scope := by
  decide

/-- After an update the dependency is respected unless the publisher is cleared
while a profile is set. -/
theorem respected_updated_iff (hkind : pass.kind = kind)
    (haccepts : kind.Accepts partition params target want)
    (hchanges : kind.changes want (kind.read raw) = .ok changes)
    (hunshadowed : schema.Unshadowed changes raw) :
    publishing.check want
        (kind.read (raw.update (pass.updateBody want (kind.read raw) changes))) = .ok () ↔
      ¬(want.clears "log_publisher" = true ∧ want.isSet "log_profile" = true) := by
  have hset : ∀ name ∈ [publishing.required, publishing.dependent],
      (kind.read (raw.update (pass.updateBody want (kind.read raw) changes))).isSet name =
        if want.contains name then want.isSet name else (kind.read raw).isSet name := by
    intro name hname
    obtain ⟨field, hfield, rfl, hcomparison, hrange, hgroups⟩ := fields_publishing name hname
    exact Pass.isSet_updated hkind faithful
      (transparent (List.mem_map_of_mem hfield) hrange hgroups)
      (ordinary haccepts hfield hrange) hcomparison hunshadowed hchanges
  exact Dependency.check_after_update_iff
    (Schema.respected_of_changes hchanges publishing List.mem_cons_self)
    (hset _ List.mem_cons_self) (hset _ (List.mem_cons_of_mem _ List.mem_cons_self))

/-- After a creation the names of the dependency are set as they are wanted. -/
theorem isSet_created (hkind : pass.kind = kind)
    (haccepts : kind.Accepts partition params target want)
    (hcreated : kind.creation want = .ok created) :
    ∀ name ∈ [publishing.required, publishing.dependent],
      (kind.read (pass.creationBody created)).isSet name = want.isSet name := by
  intro name hname
  obtain ⟨field, hfield, rfl, -, hrange, hgroups⟩ := fields_publishing name hname
  exact Pass.isSet_created hkind faithful
    (transparent (List.mem_map_of_mem hfield) hrange hgroups)
    (ordinary haccepts hfield hrange) rfl hcreated

/-- After a creation the dependency is respected when the profile that is wanted
comes with a publisher. -/
theorem respected_created_iff (hkind : pass.kind = kind)
    (haccepts : kind.Accepts partition params target want)
    (hcreated : kind.creation want = .ok created) :
    publishing.check want (kind.read (pass.creationBody created)) = .ok () ↔
      (want.isSet "log_profile" = true → want.isSet "log_publisher" = true) := by
  have hset := isSet_created hkind haccepts hcreated
  exact Dependency.check_after_creation_iff (hset _ List.mem_cons_self)
    (hset _ (List.mem_cons_of_mem _ List.mem_cons_self))

/-! ## Both passes -/

/-- A declared name is an end of the range, a member of a group, or neither. -/
theorem name_cases {name : String} (hname : name ∈ schema.names) :
    (name = "port_range_low" ∨ name = "port_range_high") ∨
      (∃ group ∈ groups, ∃ inner, (name, inner) ∈ group.members) ∨
        name ∉ rangeNames ∧ ∀ group ∈ groups, name ∉ group.scope := by
  by_cases hrange : name ∈ rangeNames
  · have hends : ∀ name ∈ schema.names, name ∈ rangeNames →
        name = "port_range_low" ∨ name = "port_range_high" := by
      decide
    exact Or.inl (hends name hname hrange)
  · by_cases hgroups : ∀ group ∈ groups, name ∉ group.scope
    · exact Or.inr (Or.inr ⟨hrange, hgroups⟩)
    · simp only [not_forall, Classical.not_not] at hgroups
      obtain ⟨group, hgroup, hscope⟩ := hgroups
      rcases List.mem_cons.mp hscope with rfl | hmember
      · exact absurd hname (wires_undeclared group hgroup).1
      · obtain ⟨⟨logical, inner⟩, hlisted, rfl⟩ := List.mem_map.mp hmember
        exact Or.inr (Or.inl ⟨group, hgroup, inner, hlisted⟩)

/-- A created pool is at rest exactly when the creation lasts. -/
theorem rests_created_iff (hkind : pass.kind = kind)
    (haccepts : kind.Accepts partition params target want)
    (hcreated : kind.creation want = .ok created) :
    pass.Rests want (pass.creationBody created) ↔ CreationLasts want := by
  have hfollows := Pass.follows_created hkind faithful bare_of_mem_followed hcreated
  have hdependency := respected_created_iff hkind haccepts hcreated
  rw [Pass.rests_iff_settled hkind rfl]
  constructor
  · intro hsettled
    refine ⟨?_, hdependency.mp (hsettled.respected _ List.mem_cons_self)⟩
    have hmember : ("persistence_mode", "mode") ∈ persistence.members := List.mem_cons_self
    exact (quiet_member_created_iff haccepts hcreated hfollows List.mem_cons_self hmember).mp
      (hsettled.quiet "persistence_mode" (by decide))
  · intro hlasts
    refine ⟨fun dependency hdependent => ?_, fun name hname => ?_⟩
    · obtain rfl := List.mem_singleton.mp hdependent
      exact hdependency.mpr hlasts.publisher
    · -- with the mode ruled out, every other dropped value is forgiven
      have hforgiven : ∀ {field : Field}, field ∈ schema.fields → field.name ∉ rangeNames →
          schema.Ordinary want field.name field → want.clears field.name = true →
            field.comparison.forgives = true := by
        intro field hfield hrange hordinary hclears
        refine (fields_single field hfield hrange).2.2 (fun hmode => ?_)
          (hordinary.clearable_of_clears hclears)
        rw [hmode, hlasts.mode] at hclears
        cases hclears
      rcases name_cases hname with (rfl | rfl) | ⟨group, hgroup, inner, hmember⟩ |
        ⟨hrange, hgroups⟩
      · exact (quiet_range_created haccepts hcreated hfollows).1
      · exact (quiet_range_created haccepts hcreated hfollows).2
      · refine (quiet_member_created_iff haccepts hcreated hfollows hgroup hmember).mpr ?_
        have hscope : name ∈ group.scope := Group.mem_scope_of_mem hmember
        have hrange : name ∉ rangeNames := fun hrange =>
          not_mem_scope_of_range _ hrange group hgroup hscope
        obtain ⟨field, hfield, rfl⟩ := List.mem_map.mp hname
        rw [← Bool.not_eq_true]
        intro hclears
        have hforgives := hforgiven hfield hrange (ordinary haccepts hfield hrange) hclears
        rw [(fields_grouped field hfield group hgroup hscope).1] at hforgives
        cases hforgives
      · obtain ⟨field, hfield, rfl⟩ := List.mem_map.mp hname
        have hordinary := ordinary haccepts hfield hrange
        exact (Pass.quiet_created_iff hkind faithful (transparent hname hrange hgroups)
          hordinary (fields_single field hfield hrange).2.1 hcreated).mpr
            (hforgiven hfield hrange hordinary)

/-- After an update a name that takes no part in ranges and groups is quiet
unless it was shadowed. -/
theorem quiet_plain_updated_iff (hkind : pass.kind = kind)
    (haccepts : kind.Accepts partition params target want)
    (hchanges : kind.changes want (kind.read raw) = .ok changes) {name : String}
    (hname : name ∈ schema.names) (hrange : name ∉ rangeNames)
    (hgroups : ∀ group ∈ groups, name ∉ group.scope) :
    schema.changesAt want (kind.read (raw.update
        (pass.updateBody want (kind.read raw) changes))) name = .ok [] ↔
      (name ∈ changes.names →
        schema.shadowed (schema.aliases.toWire name) raw.entries = false) := by
  obtain ⟨field, hfield, rfl⟩ := List.mem_map.mp hname
  exact Pass.quiet_updated_iff hkind faithful (transparent hname hrange hgroups)
    (ordinary haccepts hfield hrange) hchanges

/-- An updated pool is at rest exactly when the update lasts. -/
theorem rests_updated_iff (hkind : pass.kind = kind)
    (haccepts : kind.Accepts partition params target want) (hraw : raw.WellFormed)
    (hchanges : kind.changes want (kind.read raw) = .ok changes) :
    pass.Rests want (raw.update (pass.updateBody want (kind.read raw) changes)) ↔
      UpdateLasts want raw changes := by
  have hfollows := Pass.follows_updated hkind faithful bare_of_mem_followed hraw.distinct
    hchanges (kind.read raw)
  have hends := quiet_range_updated_iff haccepts hraw hchanges hfollows
  -- names of ranges and groups are plain, so they are never shadowed
  have hclean : ∀ name ∈ followed,
      schema.shadowed (schema.aliases.toWire name) raw.entries = false :=
    fun name hname => (bare_of_mem_followed name hname).1.shadowed_toWire hraw.distinct
  rw [Pass.rests_iff_settled hkind rfl]
  constructor
  · intro hsettled
    have hunshadowed : schema.Unshadowed changes raw := by
      intro name hname
      have hdeclared := faithful.names_of_changes hchanges name hname
      rcases name_cases hdeclared with (rfl | rfl) | ⟨group, hgroup, inner, hmember⟩ |
        ⟨hrange, hgroups⟩
      · exact hclean _ (by decide)
      · exact hclean _ (by decide)
      · exact hclean _ (List.mem_append_right _
          (List.mem_flatMap.mpr ⟨group, hgroup, Group.mem_scope_of_mem hmember⟩))
      · exact (quiet_plain_updated_iff hkind haccepts hchanges hdeclared hrange hgroups).mp
          (hsettled.quiet name hdeclared) hname
    refine ⟨hunshadowed, ?_, fun group hgroup hsends member hlisted => ?_, ?_⟩
    · exact (respected_updated_iff hkind haccepts hchanges hunshadowed).mp
        (hsettled.respected _ List.mem_cons_self)
    · exact (quiet_member_updated_iff haccepts hchanges hfollows hgroup hlisted).mp
        (hsettled.quiet _ (members_declared group hgroup _ hlisted)) hsends
    · exact hends.mp ⟨hsettled.quiet _ (by decide), hsettled.quiet _ (by decide)⟩
  · intro hlasts
    refine ⟨fun dependency hdependent => ?_, fun name hname => ?_⟩
    · obtain rfl := List.mem_singleton.mp hdependent
      exact (respected_updated_iff hkind haccepts hchanges hlasts.unshadowed).mpr
        hlasts.uncleared
    · rcases name_cases hname with (rfl | rfl) | ⟨group, hgroup, inner, hlisted⟩ |
        ⟨hrange, hgroups⟩
      · exact (hends.mpr hlasts.range).1
      · exact (hends.mpr hlasts.range).2
      · exact (quiet_member_updated_iff haccepts hchanges hfollows hgroup hlisted).mpr
          fun hsends => hlasts.groups group hgroup hsends _ hlisted
      · exact (quiet_plain_updated_iff hkind haccepts hchanges hname hrange hgroups).mpr
          fun hmem => hlasts.unshadowed name hmem

/-! ## Work orders -/

variable {order : WorkOrder} {patience : Nat} {shelf : Device.Shelf} {report : Report}

/-- A work order for a NAT pool that succeeds is repeated quietly exactly when
what it leaves behind lasts. -/
theorem natPool_repeats_iff (hentry : Entry.ofName order.entry = .ok .natPool)
    (hlive : order.checkOnly = false) (hformed : shelf.snapshot.WellFormed)
    (hok : (Plan.run order patience shelf).result = some (.ok report)) :
    Plan.Repeats order patience shelf ↔
      Plan.Lasts order patience shelf.snapshot CreationLasts UpdateLasts := by
  refine Plan.repeats_iff_lasts (fun _ => Plan.kind_of_passOf hentry rfl) immediate hlive hok
    ?_ ?_
  · intro pass want created hkind haccepts _ hcreated
    exact rests_created_iff hkind haccepts hcreated
  · intro pass want raw changes hkind haccepts hstored hchanges
    exact rests_updated_iff hkind haccepts (hformed.get? hstored) hchanges

/-- A device with one pool, which keeps clients on their address for a while. -/
def stickyShelf : Device.Shelf :=
  ⟨.ofList [("ltm/lsn-pool:/Common/lsn1", ⟨[
    ("persistence", .nested [("mode", .text "address"), ("timeout", .int 100)]),
    (rangeWire, .text "2000-3000")]⟩)], []⟩

/-- Asks for another timeout and another range. -/
def retimed : WorkOrder where
  entry := Entry.natPool.name
  name := some "lsn1"
  params := ⟨[("persistence_timeout", .int 300), ("port_range_high", .int 4000)]⟩

/-- Asks for another timeout with the mode as it is. -/
def restated : WorkOrder :=
  { retimed with
    params := ⟨[("persistence_mode", .text "address"), ("persistence_timeout", .int 300)]⟩ }

theorem wellFormed_stickyShelf : stickyShelf.snapshot.WellFormed := by decide +kernel

theorem retimed_repeats :
    (∃ report, (Plan.run retimed 0 stickyShelf).result = some (.ok report)) ∧
      Plan.Repeats retimed 0 stickyShelf := by
  obtain ⟨report, hok⟩ : ∃ report, (Plan.run retimed 0 stickyShelf).result =
      some (.ok report) := Pass.exists_report_of_succeeds (by decide +kernel)
  exact ⟨⟨report, hok⟩,
    (natPool_repeats_iff rfl rfl wellFormed_stickyShelf hok).mpr (by decide +kernel)⟩

/-- The mode is not sent with the timeout, so the nested map that is stored has
lost it. -/
theorem restated_not_repeats :
    (∃ report, (Plan.run restated 0 stickyShelf).result = some (.ok report)) ∧
      ¬Plan.Repeats restated 0 stickyShelf :=
  ⟨Pass.exists_report_of_succeeds (by decide +kernel),
    Plan.not_repeats_of_idle_eq_false (by decide +kernel)⟩

end NatPool
end Catalog
end DesiredState
