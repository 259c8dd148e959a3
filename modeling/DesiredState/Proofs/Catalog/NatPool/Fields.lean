import DesiredState.Proofs.Catalog.Group.Repetition
import DesiredState.Proofs.Catalog.NatPool.View
import DesiredState.Proofs.Pass.Stored

/-!
# The attributes of a NAT pool

How each attribute is judged, what a view shows of it after some attributes
were sent, and what can be wanted of it.  The members of nested maps and the
ends of the port range are the ones that are written in another form.
-/

namespace DesiredState
namespace Catalog
namespace NatPool

/-! ## The fields -/

theorem nodup_names : schema.names.Nodup := by decide

theorem returns_of_mem_names : ∀ name ∈ schema.names, schema.Returns name := by decide

theorem fields_consistent : ∀ field ∈ schema.fields, field.Consistent := by decide

/-- The names under which ranges and groups are written and read. -/
def followed : List String := rangeNames ++ groups.flatMap Group.scope

theorem bare_of_mem_followed : ∀ name ∈ followed, kind.Bare name := by decide

theorem wires_undeclared : ∀ group ∈ groups,
    group.wire ∉ schema.names ∧ schema.field? group.wire = none := by
  decide

/-- All names but the ends of the range are judged on their own, and none of
them misses a value that asks for clearing, except the persistence mode. -/
theorem fields_single : ∀ field ∈ schema.fields, field.name ∉ rangeNames →
    field.comparison.partner? = none ∧ field.comparison ≠ .keywordOrSet ∧
      (field.name ≠ "persistence_mode" → field.shape.clearable = true →
        field.comparison.forgives = true) := by
  decide

/-- Members of groups are compared exactly, and come back from a nested map. -/
theorem fields_grouped : ∀ field ∈ schema.fields, ∀ group ∈ groups,
    field.name ∈ group.scope → field.comparison = .exact ∧ field.shape.Unnumbered := by
  decide

/-- Every member of a group is declared. -/
theorem members_declared : ∀ group ∈ groups, ∀ member ∈ group.members,
    member.1 ∈ schema.names := by
  decide

theorem low_declared :
    schema.field? "port_range_low" =
      some ((Field.port "port_range_low").comparedBy (.paired "port_range_high")) :=
  rfl

theorem high_declared :
    schema.field? "port_range_high" =
      some ((Field.port "port_range_high").comparedBy (.paired "port_range_low")) :=
  rfl

theorem pairsMutually : schema.PairsMutually schema.names :=
  Schema.pairsMutually_of_partners nodup_names (by decide)

theorem faithful : kind.Faithful where
  updatable := rfl
  paired := pairsMutually
  writes := by
    intro body hdistinct hnames
    refine ⟨distinct_write hdistinct, fun name hname => ?_⟩
    rcases mem_names_of_write hname with hbody | hwire
    · exact returns_of_mem_names name (hnames name hbody)
    · have hwires : ∀ name ∈ rangeWire :: groups.map Group.wire, schema.Plain name := by
        decide
      exact (hwires name hwire).returns
  named := by
    change schema.Plain "name"
    decide
  flagged := by
    intro flags hflags
    cases hflags

/-- Names that take no part in ranges and groups pass reader and writer. -/
theorem transparent {name : String} (hname : name ∈ schema.names)
    (hrange : name ∉ rangeNames) (hgroups : ∀ group ∈ groups, name ∉ group.scope) :
    kind.Transparent name where
  returns := returns_of_mem_names name hname
  read := fun held => get?_read_of_not_mem held hrange hgroups
  written := fun body => get?_write_of_not_mem hrange hgroups body
  unnamed := by
    rintro rfl
    exact absurd hname (by decide)
  unflagged := by
    intro flags hflags
    cases hflags

theorem immediate : kind.Immediate where
  jobless := fun _ => rfl
  flagged := by
    intro flags hflags
    cases hflags
  writesNothing := rfl
  kept := by
    intro hsingleton
    cases hsingleton

/-! ## What is read back -/

section Follows

variable {sent base view : Attributes}

/-- A member of a group that was sent is read from what was sent, and others
are read as before. -/
theorem get?_member_of_follows (h : kind.Follows followed sent base view) {group : Group}
    (hgroup : group ∈ groups) {logical inner : String}
    (hmember : (logical, inner) ∈ group.members) :
    (read view).get? logical =
      if group.sends sent then ((sent.get? logical).map numericValue).or (base.get? logical)
      else (read base).get? logical := by
  have hapart : ∀ name ∈ group.scope, name ∉ rangeNames := by
    intro name hname hrange
    exact not_mem_scope_of_range name hrange group hgroup hname
  have hscope : logical ∈ group.scope := Group.mem_scope_of_mem hmember
  rw [get?_read_of_not_range view (hapart logical hscope),
    get?_read_of_not_range base (hapart logical hscope)]
  obtain ⟨hundeclared, hfield⟩ := wires_undeclared group hgroup
  refine Group.get?_spreadAll_of_written allRegular_groups hgroup hfield h.distinct
    (h.get?_eq_none hundeclared) (fun name hname => ?_) hmember
  have hfollowed : name ∈ followed :=
    List.mem_append_right _ (List.mem_flatMap.mpr ⟨group, hgroup, hname⟩)
  rw [h.get?_eq name hfollowed]
  change (((write sent).get? name).map _).or _ = _
  rw [get?_write_of_not_range (hapart name hname)]
  rfl

/-- What a view shows of a range: the text that was sent, and ends that stood on
their own before. -/
theorem get?_range_of_follows (h : kind.Follows followed sent base view) :
    view.get? rangeWire = ((range? sent).map Value.text).or (base.get? rangeWire) ∧
      view.get? "port_range_low" = base.get? "port_range_low" ∧
        view.get? "port_range_high" = base.get? "port_range_high" := by
  have hunsent : sent.get? rangeWire = none := h.get?_eq_none (by decide)
  obtain ⟨hwire, hlow, hhigh⟩ := get?_write_of_range h.distinct hunsent
  have hview : ∀ name ∈ rangeNames, view.get? name =
      (((write sent).get? name).map (schema.coerced name)).or (base.get? name) :=
    fun name hname => h.get?_eq name (List.mem_append_left _ hname)
  rw [hview _ (by decide), hview _ (by decide), hview _ (by decide), hwire, hlow, hhigh]
  refine ⟨?_, rfl, rfl⟩
  cases range? sent with
  | none => rfl
  | some range => rw [Option.map_some, Option.map_some, Schema.coerced_of_undeclared rfl]

/-- When no range was sent, both ends are read as before. -/
theorem read_of_no_range (h : kind.Follows followed sent base view)
    (hnone : range? sent = none) :
    (read view).get? "port_range_low" = (read base).get? "port_range_low" ∧
      (read view).get? "port_range_high" = (read base).get? "port_range_high" := by
  obtain ⟨hwire, hlow, hhigh⟩ := get?_range_of_follows h
  rw [hnone, Option.map_none, Option.none_or] at hwire
  have htext : view.text? rangeWire = base.text? rangeWire := by
    rw [Attributes.text?, hwire, Attributes.text?]
  cases hsplit : (base.text? rangeWire).bind splitRange with
  | some ends =>
      obtain ⟨low, high⟩ := ends
      obtain ⟨hbaseLow, hbaseHigh⟩ := get?_read_of_splitRange base hsplit
      obtain ⟨hviewLow, hviewHigh⟩ := get?_read_of_splitRange view (htext ▸ hsplit)
      exact ⟨hviewLow.trans hbaseLow.symm, hviewHigh.trans hbaseHigh.symm⟩
  | none =>
      obtain ⟨hbaseLow, hbaseHigh⟩ := get?_read_of_splitRange_eq_none base hsplit
      obtain ⟨hviewLow, hviewHigh⟩ := get?_read_of_splitRange_eq_none view (htext ▸ hsplit)
      rw [hviewLow, hviewHigh, hbaseLow, hbaseHigh]
      exact ⟨hlow, hhigh⟩

/-- A range that was sent is read back when its low end is not negative. -/
theorem read_of_range (h : kind.Follows followed sent base view) {low high : Int}
    (hsent : range? sent = some (joinRange low high)) (hsign : 0 ≤ low)
    (hfitsLow : Text.fitsInt64 low = true) (hfitsHigh : Text.fitsInt64 high = true) :
    (read view).get? "port_range_low" = some (.int low) ∧
      (read view).get? "port_range_high" = some (.int high) := by
  obtain ⟨hwire, -, -⟩ := get?_range_of_follows h
  rw [hsent, Option.map_some, Option.some_or] at hwire
  refine get?_read_of_splitRange view ?_
  rw [Attributes.text?_eq_some_iff.mpr hwire, Option.bind_some,
    splitRange_joinRange hsign hfitsLow hfitsHigh]

/-- A range whose low end is negative is not read at all. -/
theorem read_of_negative_range (h : kind.Follows followed sent base view) {low high : Int}
    (hsent : range? sent = some (joinRange low high)) (hsign : low < 0) :
    (read view).get? "port_range_low" = base.get? "port_range_low" ∧
      (read view).get? "port_range_high" = base.get? "port_range_high" := by
  obtain ⟨hwire, hlow, hhigh⟩ := get?_range_of_follows h
  rw [hsent, Option.map_some, Option.some_or] at hwire
  have hsplit : (view.text? rangeWire).bind splitRange = none := by
    rw [Attributes.text?_eq_some_iff.mpr hwire, Option.bind_some,
      splitRange_joinRange_of_neg hsign]
  obtain ⟨hviewLow, hviewHigh⟩ := get?_read_of_splitRange_eq_none view hsplit
  exact ⟨hviewLow.trans hlow, hviewHigh.trans hhigh⟩

end Follows

/-! ## What is wanted -/

variable {params want view : Attributes} {partition : String} {target : Target}

theorem ordinary (h : kind.Accepts partition params target want) {field : Field}
    (hfield : field ∈ schema.fields) (hrange : field.name ∉ rangeNames) :
    schema.Ordinary want field.name field :=
  Schema.ordinary_of_want nodup_names h.normal hfield (fields_single field hfield hrange).1
    (fields_consistent field hfield)

/-- A wanted end of the range is a port number. -/
theorem int_of_end (h : kind.Accepts partition params target want) {name : String}
    (hname : name = "port_range_low" ∨ name = "port_range_high") {wanted : Value}
    (hwanted : want.get? name = some wanted) :
    ∃ port, wanted = .int port ∧ 0 ≤ port ∧ port ≤ 65535 := by
  obtain ⟨field, hfield, hholds⟩ := Schema.holds_of_want nodup_names h.normal hwanted
  have hport : (Shape.int 0 65535).Holds wanted := by
    rcases hname with rfl | rfl
    · obtain rfl := Option.some.inj (low_declared.symm.trans hfield)
      exact hholds
    · obtain rfl := Option.some.inj (high_declared.symm.trans hfield)
      exact hholds
  cases wanted with
  | int port => exact ⟨port, rfl, hport⟩
  | _ => exact hport.elim

theorem port_of_end (h : kind.Accepts partition params target want) {name : String}
    (hname : name = "port_range_low" ∨ name = "port_range_high") {port : Int}
    (hport : want.int? name = some port) : 0 ≤ port ∧ port ≤ 65535 := by
  obtain ⟨number, heq, hbounds⟩ := int_of_end h hname (Attributes.int?_eq_some_iff.mp hport)
  exact Value.int.inj heq ▸ hbounds

/-- An end that is no number is not wanted. -/
theorem int?_end_eq_none_iff (h : kind.Accepts partition params target want) {name : String}
    (hname : name = "port_range_low" ∨ name = "port_range_high") :
    want.int? name = none ↔ want.get? name = none := by
  cases hwanted : want.get? name with
  | none =>
      rw [Attributes.int?, hwanted]
      exact iff_of_true rfl rfl
  | some wanted =>
      obtain ⟨port, rfl, -⟩ := int_of_end h hname hwanted
      rw [Attributes.int?_eq_some_iff.mpr hwanted]
      exact iff_of_false (Option.some_ne_none _) (Option.some_ne_none _)

theorem fits_of_port {port : Int} (h : 0 ≤ port ∧ port ≤ 65535) :
    Text.fitsInt64 port = true := by
  rw [Text.fitsInt64_iff]
  omega

/-- Both ends are quiet when the view shows what is wanted. -/
theorem quiet_range_iff (h : kind.Accepts partition params target want) :
    (schema.changesAt want view "port_range_low" = .ok [] ∧
        schema.changesAt want view "port_range_high" = .ok []) ↔
      (∀ wanted, want.get? "port_range_low" = some wanted →
          view.get? "port_range_low" = some wanted) ∧
        ∀ wanted, want.get? "port_range_high" = some wanted →
          view.get? "port_range_high" = some wanted := by
  refine Schema.changesAt_pair_shown_iff rfl rfl fun name hname wanted hwanted => ?_
  obtain ⟨port, rfl, -⟩ := int_of_end h (by simpa using hname) hwanted
  rfl

/-- When a range is sent with what is wanted in it, both ends are quiet unless the
low one is negative. -/
theorem quiet_of_range {sent base : Attributes}
    (haccepts : kind.Accepts partition params target want)
    (hfollows : kind.Follows followed sent base view)
    (hsent : ∀ name, name = "port_range_low" ∨ name = "port_range_high" →
      ∀ wanted, want.get? name = some wanted → sent.get? name = some wanted)
    (hfits : ∀ name, name = "port_range_low" ∨ name = "port_range_high" →
      ∀ port, sent.get? name = some (.int port) → Text.fitsInt64 port = true)
    (hends : sent.int? "port_range_low" ≠ none ∨ sent.int? "port_range_high" ≠ none)
    (hsign : ∀ low, sent.int? "port_range_low" = some low → 0 ≤ low) :
    schema.changesAt want (read view) "port_range_low" = .ok [] ∧
      schema.changesAt want (read view) "port_range_high" = .ok [] := by
  have hfilled : ∀ name, name = "port_range_low" ∨ name = "port_range_high" →
      ∀ missing, Text.fitsInt64 missing = true →
        Text.fitsInt64 ((sent.int? name).getD missing) = true := by
    intro name hname missing hmissing
    cases hint : sent.int? name with
    | none => exact hmissing
    | some port => exact hfits name hname port (Attributes.int?_eq_some_iff.mp hint)
  have hnonneg : 0 ≤ (sent.int? "port_range_low").getD defaultLow := by
    cases hint : sent.int? "port_range_low" with
    | none => decide
    | some low => exact hsign low hint
  obtain ⟨hreadLow, hreadHigh⟩ := read_of_range hfollows (range?_eq_some hends) hnonneg
    (hfilled _ (Or.inl rfl) defaultLow (by decide))
    (hfilled _ (Or.inr rfl) defaultHigh (by decide))
  -- a wanted end is sent as it is, so no default stands in for it
  have hwanted : ∀ name, name = "port_range_low" ∨ name = "port_range_high" →
      ∀ wanted, want.get? name = some wanted →
        ∀ missing, wanted = .int ((sent.int? name).getD missing) := by
    intro name hname wanted hwanted missing
    obtain ⟨port, rfl, -⟩ := int_of_end haccepts hname hwanted
    rw [Attributes.int?_eq_some_iff.mpr (hsent name hname _ hwanted), Option.getD_some]
  rw [quiet_range_iff haccepts, hreadLow, hreadHigh]
  constructor
  · intro wanted hlow
    rw [← hwanted _ (Or.inl rfl) wanted hlow]
  · intro wanted hhigh
    rw [← hwanted _ (Or.inr rfl) wanted hhigh]

end NatPool
end Catalog
end DesiredState
