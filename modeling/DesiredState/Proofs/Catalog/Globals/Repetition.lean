import DesiredState.Proofs.Catalog.Globals.Fields
import DesiredState.Proofs.Pass.Repetition
import DesiredState.Proofs.WellFormed

/-!
# Repeating a work order for the global settings

The port lockdown and the wish for all or no ports always come to rest.  The
other settings do unless a nested map is sent in part, since the device stores
the part for the whole; unless a text that spells a number is sent, which is
read back as that number; and unless LLDP is switched on while a flag that
switches it off stands beside the nested map.
-/

namespace DesiredState
namespace Catalog
namespace Globals

/-- What makes an update last. -/
structure UpdateLasts (want raw changes : Attributes) : Prop where
  /-- No group is sent in part. -/
  groups : ∀ group ∈ groups, group.Kept want (readLldp (schema.ofWire raw)) changes
  /-- Texts that are sent spell no numbers. -/
  texts : ∀ name ∈ ["stp_config_name", "stp_description"], ∀ content,
    changes.text? name = some content → Text.readInt64 content = none
  /-- LLDP is not switched on beside a flag that switches it off. -/
  switch : ¬(changes.flag? "lldp_enabled" = some true ∧
    raw.flag? "lldp_disabled" = some true)

instance (want raw changes : Attributes) : Decidable (UpdateLasts want raw changes) :=
  decidable_of_iff (_ ∧ _ ∧ _)
    ⟨fun h => ⟨h.1, h.2.1, h.2.2⟩, fun h => ⟨h.groups, h.texts, h.switch⟩⟩

/-! ## Updates -/

variable {pass : Pass} {params want raw changes view : Attributes}
  {partition : String} {target : Target}

section Updates

variable (hchanges : kind.changes want (kind.read raw) = .ok changes)

include hchanges

/-- What is sent as a flag is one. -/
theorem flag_of_sent {name : String} (hordinary : schema.Ordinary want name (Field.flag name))
    (hname : name ∈ schema.names) {value : Value} (hsent : changes.get? name = some value) :
    ∃ on, value = .flag on :=
  Shape.exists_flag_of_holds (hordinary.holds_of_sent pairsMutually hname hchanges hsent)

/-- Nothing is sent that is not wanted. -/
theorem unsent_of_unwanted {field : Field} {name : String}
    (hordinary : schema.Ordinary want name field) (hname : name ∈ schema.names)
    (hunwanted : want.get? name = none) : changes.get? name = none := by
  rw [hordinary.get?_changes pairsMutually hname hchanges, hunwanted]
  rfl

variable (haccepts : kind.Accepts partition params target want)

include haccepts

/-- The groups that are sent are those with a member that is sent, except for
the port lockdown. -/
theorem sends_prepared_changes {group : Group} (hgroup : group ∈ groups)
    (hother : group ≠ lockdown) : group.sends (prepared changes) = group.sends changes := by
  -- preparing LLDP turns its flag into two, both members of its group
  rcases group_cases group hgroup with rfl | heq | hplain
  · refine sends_lldp_prepared (Schema.distinct_of_changes hchanges) ?_ fun value hsent =>
      flag_of_sent hchanges (enabled_ordinary haccepts) (by decide) hsent
    have hundeclared : "lldp_disabled" ∉ kind.schema.names := by decide
    rw [faithful.get?_changes hchanges, if_neg hundeclared]
  · exact absurd heq hother
  · exact sends_prepared hplain changes

variable (hfollows : kind.Follows followed changes (schema.ofWire raw) view)

include hfollows

/-- What the groups show of a member outside the port lockdown. -/
theorem get?_member_updated {group : Group} (hgroup : group ∈ groups)
    (hother : group ≠ lockdown) {logical inner : String}
    (hmember : (logical, inner) ∈ group.members) :
    (Group.spreadAll groups view).get? logical =
      if group.sends changes then
        (((prepared changes).get? logical).map numericValue).or
          ((schema.ofWire raw).get? logical)
      else (Group.spreadAll groups (schema.ofWire raw)).get? logical := by
  rw [get?_member_of_follows hfollows hgroup hmember,
    sends_prepared_changes hchanges haccepts hgroup hother]

/-- After an update a member that is not prepared is quiet exactly when it was
not sent as a number and is kept. -/
theorem quiet_member_updated_iff {group : Group} (hgroup : group ∈ groups)
    {logical inner : String} (hmember : (logical, inner) ∈ group.members)
    (hname : logical ∈ schema.names) (hplain : logical ∉ preparedNames) :
    schema.changesAt want (read view) logical = .ok [] ↔
      (logical ∈ ["stp_config_name", "stp_description"] → ∀ content,
          changes.text? logical = some content → Text.readInt64 content = none) ∧
        (group.sends changes = true → changes.contains logical = false →
          ∀ wanted, want.get? logical = some wanted →
            sameOption ((readLldp (schema.ofWire raw)).get? logical) (some wanted) =
              true) := by
  have hnames := hplain
  simp only [preparedNames, List.mem_cons, List.not_mem_nil, or_false, not_or] at hnames
  obtain ⟨hall, -, henabled, hdisabled⟩ := hnames
  have hother : group ≠ lockdown := by
    rintro rfl
    obtain ⟨rfl, rfl⟩ := Prod.mk.inj (List.mem_singleton.mp hmember)
    exact hplain (by decide)
  obtain ⟨field, hfield, rfl⟩ := List.mem_map.mp hname
  obtain ⟨hexact, hshape⟩ := fields_grouped field hfield hplain
  have hordinary := ordinary haccepts hfield
  have hread := get?_member_updated hchanges haccepts hfollows hgroup hother hmember
  rw [← get?_read_of_not_mem _ hall henabled hdisabled,
    ← get?_read_of_not_mem _ hall henabled hdisabled, get?_prepared_of_not_mem hplain,
    ← read_kind_eq] at hread
  rw [Group.quiet_member_iff hmember hordinary hexact pairsMutually hname hchanges hread,
    get?_readLldp_of_ne _ henabled hdisabled]
  refine and_congr_left fun _ => ⟨fun h _ content htext => ?_, fun h value hsent => ?_⟩
  · exact (numericValue_text_iff content).mp (h _ (Attributes.text?_eq_some_iff.mp htext))
  · by_cases hfree : field.name ∈ ["stp_config_name", "stp_description"]
    · cases value with
      | text content =>
          exact numericValue_text (h hfree content (Attributes.text?_eq_some_iff.mpr hsent))
      | _ => rfl
    · exact numericValue_of_holds (hshape.resolve_right hfree)
        (hordinary.holds_of_sent pairsMutually hname hchanges hsent)

/-- What the groups show of both flags of LLDP. -/
theorem get?_flags_updated :
    ((Group.spreadAll groups view).get? "lldp_enabled" =
        if lldp.sends changes then
          (if changes.flag? "lldp_enabled" = some true then some (.flag true) else none).or
            ((schema.ofWire raw).get? "lldp_enabled")
        else (Group.spreadAll groups (schema.ofWire raw)).get? "lldp_enabled") ∧
      (Group.spreadAll groups view).get? "lldp_disabled" =
        if lldp.sends changes then
          (if changes.flag? "lldp_enabled" = some false then some (.flag true) else none).or
            ((schema.ofWire raw).get? "lldp_disabled")
        else (Group.spreadAll groups (schema.ofWire raw)).get? "lldp_disabled" := by
  have hundeclared : "lldp_disabled" ∉ kind.schema.names := by decide
  have hunsent : changes.get? "lldp_disabled" = none := by
    rw [faithful.get?_changes hchanges, if_neg hundeclared]
  have hkept : ∀ on : Prop, [Decidable on] →
      (if on then some (Value.flag true) else none).map numericValue =
        if on then some (.flag true) else none := by
    intro on _
    split <;> rfl
  obtain ⟨hon, hoff⟩ := get?_flags_prepared (Schema.distinct_of_changes hchanges)
  rw [hunsent] at hoff
  constructor
  · rw [get?_member_updated hchanges haccepts hfollows lldp_mem_groups (by decide)
      List.mem_cons_self, hon, hkept]
  · rw [get?_member_updated hchanges haccepts hfollows lldp_mem_groups (by decide)
      (List.mem_cons_of_mem _ List.mem_cons_self), hoff, hkept]

/-- A flag that was sent is read back, unless it is switched off beside it. -/
theorem get?_enabled_of_sent {on : Bool} (hsent : changes.get? "lldp_enabled" = some (.flag on)) :
    (read view).get? "lldp_enabled" =
      some (.flag (on && (schema.ofWire raw).flag? "lldp_disabled" != some true)) := by
  obtain ⟨hon, hoff⟩ := get?_flags_updated hchanges haccepts hfollows
  have hcontains : changes.contains "lldp_enabled" = true :=
    Attributes.contains_iff.mpr ⟨_, hsent⟩
  have hsends : lldp.sends changes = true :=
    Group.sends_of_contains List.mem_cons_self hcontains
  rw [if_pos hsends, Attributes.flag?_eq_some_iff.mpr hsent] at hon hoff
  rw [get?_enabled_read, Attributes.flag?, hoff, hon, Attributes.flag?]
  -- switched off, the other flag is sent; switched on, it is left as stored
  cases on with
  | true =>
      simp only [if_true, Option.some_or, Option.some.injEq, Bool.true_eq_false, if_false,
        Option.none_or, Bool.true_and]
      split
      · simp [*]
      · simp [*]
  | false => simp [Value.asFlag]

/-- A flag that was not sent is read from beside the nested map when that was
sent, and as before otherwise. -/
theorem get?_enabled_of_unsent (hunsent : changes.get? "lldp_enabled" = none) :
    (read view).get? "lldp_enabled" =
      if lldp.sends changes then (readLldp (schema.ofWire raw)).get? "lldp_enabled"
      else (kind.read raw).get? "lldp_enabled" := by
  obtain ⟨hon, hoff⟩ := get?_flags_updated hchanges haccepts hfollows
  have hflag : changes.flag? "lldp_enabled" = none := by
    rw [Attributes.flag?, hunsent]
    rfl
  simp only [hflag, reduceCtorEq, if_false, Option.none_or] at hon hoff
  rw [get?_enabled_read, Attributes.flag?, hoff, hon]
  split
  · rw [get?_enabled_readLldp, Attributes.flag?]
  · rw [read_kind_eq, get?_enabled_read, Attributes.flag?]

/-- After an update the flag of LLDP is quiet exactly when it was not switched
on beside a flag that switches it off, and is kept. -/
theorem quiet_enabled_updated_iff :
    schema.changesAt want (read view) "lldp_enabled" = .ok [] ↔
      ¬(changes.flag? "lldp_enabled" = some true ∧
          (schema.ofWire raw).flag? "lldp_disabled" = some true) ∧
        (lldp.sends changes = true → changes.contains "lldp_enabled" = false →
          ∀ wanted, want.get? "lldp_enabled" = some wanted →
            sameOption ((readLldp (schema.ofWire raw)).get? "lldp_enabled") (some wanted) =
              true) := by
  have hordinary := enabled_ordinary haccepts
  have hname : "lldp_enabled" ∈ schema.names := by decide
  cases hsent : changes.get? "lldp_enabled" with
  | some value =>
      obtain ⟨on, rfl⟩ := flag_of_sent hchanges hordinary hname hsent
      have hread := get?_enabled_of_sent hchanges haccepts hfollows hsent
      have hcontains : changes.contains "lldp_enabled" = true :=
        Attributes.contains_iff.mpr ⟨_, hsent⟩
      rw [hordinary.changesAt_sent_iff pairsMutually hname hchanges rfl hsent hread,
        Attributes.flag?_eq_some_iff.mpr hsent]
      simp only [hcontains, Bool.true_eq_false, false_imp_iff, implies_true, and_true]
      cases on with
      | true => simp
      | false => simp
  | none =>
      have hread := get?_enabled_of_unsent hchanges haccepts hfollows hsent
      have hcontains : changes.contains "lldp_enabled" = false :=
        Attributes.contains_eq_false_iff.mpr hsent
      have hflag : changes.flag? "lldp_enabled" = none := by
        rw [Attributes.flag?, hsent]
        rfl
      simp only [hflag, hcontains, reduceCtorEq, false_and, not_false_eq_true, true_and,
        true_imp_iff]
      exact Group.quiet_unsent_iff hordinary rfl pairsMutually hname hchanges hsent hread

/-- After an update the port lockdown is quiet. -/
theorem quiet_defaults_updated :
    schema.changesAt want (read view) "self_allow_defaults" = .ok [] := by
  have hordinary := defaults_ordinary haccepts
  have hname : "self_allow_defaults" ∈ schema.names := by decide
  have hread : (read view).get? "self_allow_defaults" =
      (Group.spreadAll groups view).get? "self_allow_defaults" :=
    get?_read_of_not_mem view (by decide) (by decide) (by decide)
  cases hsent : changes.get? "self_allow_defaults" with
  | some value =>
      have hnumeric : numericValue value = value :=
        numericValue_defaults (hordinary.holds_of_sent pairsMutually hname hchanges hsent)
      refine hordinary.changesAt_of_sent pairsMutually hname hchanges hsent ?_
      rw [hread, get?_defaults_of_prepared hfollows (by
        rw [get?_defaults_prepared, hsent, Option.some_or]), hnumeric]
  | none =>
      cases hwanted : want.get? "self_allow_defaults" with
      | none =>
          rw [Schema.changesAt_eq_nil_iff hordinary.single_comparison, hwanted]
          exact nofun
      | some wanted =>
          -- the wish for all or no ports is not wanted beside, so nothing was sent
          have hunwanted : want.get? "self_allow_all" = none := by
            cases hall : want.get? "self_allow_all" with
            | none => rfl
            | some all =>
                rw [unconflicting haccepts hall] at hwanted
                cases hwanted
          have hall := unsent_of_unwanted hchanges (all_ordinary haccepts) (by decide) hunwanted
          refine hordinary.changesAt_of_unsent pairsMutually hname hchanges hsent ?_
          rw [hread, get?_defaults_of_unprepared hfollows (by
            rw [get?_defaults_prepared, hsent, Attributes.flag?, hall]; rfl), read_kind_eq,
            get?_read_of_not_mem _ (by decide) (by decide) (by decide)]

/-- After an update the wish for all or no ports is quiet. -/
theorem quiet_all_updated : schema.changesAt want (read view) "self_allow_all" = .ok [] := by
  have hordinary := all_ordinary haccepts
  have hname : "self_allow_all" ∈ schema.names := by decide
  cases hwanted : want.get? "self_allow_all" with
  | none =>
      rw [Schema.changesAt_eq_nil_iff hordinary.single_comparison, hwanted]
      exact nofun
  | some wanted =>
      -- the port lockdown is not wanted beside, so it is prepared from this wish alone
      have hdefaults := unsent_of_unwanted hchanges (defaults_ordinary haccepts) (by decide)
        (unconflicting haccepts hwanted)
      have hprepared := get?_defaults_prepared changes
      rw [hdefaults, Option.none_or] at hprepared
      cases hsent : changes.get? "self_allow_all" with
      | some value =>
          obtain ⟨all, rfl⟩ := flag_of_sent hchanges hordinary hname hsent
          rw [Attributes.flag?_eq_some_iff.mpr hsent, Option.map_some] at hprepared
          have hshown := get?_defaults_of_prepared hfollows hprepared
          refine hordinary.changesAt_of_sent pairsMutually hname hchanges hsent ?_
          rw [get?_all_read, allowAll?, Attributes.text?, hshown]
          cases all <;> rfl
      | none =>
          rw [Attributes.flag?, hsent] at hprepared
          have hshown := get?_defaults_of_unprepared hfollows hprepared
          refine hordinary.changesAt_of_unsent pairsMutually hname hchanges hsent ?_
          rw [get?_all_read, allowAll?, Attributes.text?, hshown, get?_all_of_follows hfollows,
            read_kind_eq, get?_all_read, allowAll?, Attributes.text?]

end Updates

/-! ## Both passes -/

/-- Updated settings are at rest exactly when the update lasts. -/
theorem rests_updated_iff (hkind : pass.kind = kind)
    (haccepts : kind.Accepts partition params target want) (hraw : raw.Distinct)
    (hchanges : kind.changes want (kind.read raw) = .ok changes) :
    pass.Rests want (raw.update (pass.updateBody want (kind.read raw) changes)) ↔
      UpdateLasts want raw changes := by
  have hfollows := Pass.follows_updated hkind faithful bare_of_mem_followed hraw hchanges
    (kind.read raw)
  have hflag : (schema.ofWire raw).flag? "lldp_disabled" = raw.flag? "lldp_disabled" :=
    (plain _).flag?_ofWire hraw rfl
  have henabled := quiet_enabled_updated_iff hchanges haccepts hfollows
  rw [hflag] at henabled
  rw [Pass.rests_iff_settled hkind rfl, read_kind_eq (raw.update _)]
  constructor
  · intro hsettled
    refine ⟨fun group hgroup hsends member hmember hunsent wanted hwanted => ?_,
      fun name hname content htext => ?_, ?_⟩
    · -- a flag that is not declared cannot be wanted
      rcases member_cases group hgroup member hmember with heq | ⟨rfl, heq⟩ | ⟨rfl, heq⟩ |
        ⟨hname, hplain⟩
      · obtain ⟨field, hfield, -⟩ := Schema.holds_of_want nodup_names haccepts.normal hwanted
        rw [heq] at hfield
        cases hfield
      · rw [heq] at hunsent hwanted ⊢
        exact (henabled.mp (hsettled.quiet _ (by decide))).2 hsends hunsent wanted hwanted
      · obtain rfl := List.mem_singleton.mp hmember
        simp [Group.sends, lockdown, hunsent] at hsends
      · exact ((quiet_member_updated_iff hchanges haccepts hfollows hgroup hmember hname
          hplain).mp (hsettled.quiet _ hname)).2 hsends hunsent wanted hwanted
    · obtain ⟨hdeclared, hall, hplain⟩ := texts_unprepared name hname
      obtain ⟨group, hgroup, member, hmember, rfl⟩ :=
        (names_grouped name hdeclared).resolve_left hall
      exact ((quiet_member_updated_iff hchanges haccepts hfollows hgroup hmember hdeclared
        hplain).mp (hsettled.quiet _ hdeclared)).1 hname content htext
    · exact (henabled.mp (hsettled.quiet _ (by decide))).1
  · intro hlasts
    refine ⟨fun _ hdependency => (List.not_mem_nil hdependency).elim, fun name hname => ?_⟩
    have hdeclared : name ∈ schema.names := hname
    rcases names_grouped name hdeclared with rfl | ⟨group, hgroup, member, hmember, rfl⟩
    · exact quiet_all_updated hchanges haccepts hfollows
    · have hkept := hlasts.groups group hgroup
      rcases member_cases group hgroup member hmember with heq | ⟨rfl, heq⟩ | ⟨rfl, heq⟩ |
        ⟨-, hplain⟩
      · rw [heq] at hdeclared
        exact absurd hdeclared (by decide)
      · have henabledKept := fun hsends => hkept hsends member hmember
        rw [heq] at henabledKept ⊢
        exact henabled.mpr ⟨hlasts.switch, henabledKept⟩
      · rw [heq]
        exact quiet_defaults_updated hchanges haccepts hfollows
      · exact (quiet_member_updated_iff hchanges haccepts hfollows hgroup hmember hdeclared
          hplain).mpr ⟨hlasts.texts _, fun hsends => hkept hsends member hmember⟩

/-! ## Work orders -/

variable {order : WorkOrder} {patience : Nat} {shelf : Device.Shelf} {report : Report}

/-- A work order for the global settings that succeeds is repeated quietly
exactly when what it leaves behind lasts; the settings are never created. -/
theorem globals_repeats_iff (hentry : Entry.ofName order.entry = .ok .globals)
    (hlive : order.checkOnly = false) (hformed : shelf.snapshot.WellFormed)
    (hok : (Plan.run order patience shelf).result = some (.ok report)) :
    Plan.Repeats order patience shelf ↔
      Plan.Lasts order patience shelf.snapshot (fun _ => True) UpdateLasts := by
  refine Plan.repeats_iff_lasts (fun _ => Plan.kind_of_passOf hentry rfl) immediate hlive hok
    ?_ ?_
  · intro pass want created hkind haccepts hsingleton _
    cases hsingleton
  · intro pass want raw changes hkind haccepts hstored hchanges
    exact rests_updated_iff hkind haccepts (hformed.get? hstored).distinct hchanges

/-- A device with some settings of the spanning tree. -/
def treeShelf : Device.Shelf :=
  ⟨.ofList [("net/globals:/Common/globals", ⟨[
    ("stp", .nested [("helloTime", .int 2), ("maxAge", .int 10)])]⟩)], []⟩

/-- Asks for other times. -/
def slowed : WorkOrder where
  entry := Entry.globals.name
  params := ⟨[("stp_hello_time", .int 3), ("stp_max_age", .int 20)]⟩

/-- Asks for one other time, with the other one as it is. -/
def halfSlowed : WorkOrder :=
  { slowed with params := ⟨[("stp_hello_time", .int 2), ("stp_max_age", .int 20)]⟩ }

theorem wellFormed_treeShelf : treeShelf.snapshot.WellFormed := by decide +kernel

theorem slowed_repeats :
    (∃ report, (Plan.run slowed 0 treeShelf).result = some (.ok report)) ∧
      Plan.Repeats slowed 0 treeShelf := by
  obtain ⟨report, hok⟩ : ∃ report, (Plan.run slowed 0 treeShelf).result =
      some (.ok report) := Pass.exists_report_of_succeeds (by decide +kernel)
  exact ⟨⟨report, hok⟩,
    (globals_repeats_iff rfl rfl wellFormed_treeShelf hok).mpr (by decide +kernel)⟩

/-- The time that is as wanted is not sent with the other one, so the nested map
that is stored has lost it. -/
theorem halfSlowed_not_repeats :
    (∃ report, (Plan.run halfSlowed 0 treeShelf).result = some (.ok report)) ∧
      ¬Plan.Repeats halfSlowed 0 treeShelf :=
  ⟨Pass.exists_report_of_succeeds (by decide +kernel),
    Plan.not_repeats_of_idle_eq_false (by decide +kernel)⟩

end Globals
end Catalog
end DesiredState
