import DesiredState.Proofs.Catalog.Virtual.Fields
import DesiredState.Proofs.Pass.Repetition
import DesiredState.Proofs.WellFormed

/-!
# Repeating a work order for a virtual server

The flags always come to rest.  The other attributes do unless what is sent is
shadowed, unless the address that is sent is taken apart in another place than
it was put together, and unless a list of VLANs is read under the other name:
an update that sends enabled VLANs leaves the switch for disabled ones as it
is.
-/

namespace DesiredState
namespace Catalog
namespace Virtual

/-- What makes an update last. -/
structure UpdateLasts (want raw changes : Attributes) : Prop where
  /-- Nothing that is sent is shadowed by another stored entry. -/
  unshadowed : schema.Unshadowed changes raw
  /-- The address that is sent is read back. -/
  address : AddressKept changes
  /-- Enabled VLANs are sent only where the switch for disabled ones is off. -/
  enabledVlans : changes.contains "enabled_vlans" = true →
    raw.flag? "vlansDisabled" ≠ some true
  /-- Disabled VLANs are sent alone only where the enabled ones that are wanted,
  if any, are stored under their own name. -/
  disabledVlans : changes.contains "disabled_vlans" = true →
    changes.contains "enabled_vlans" = false →
      ∀ wanted, want.get? "enabled_vlans" = some wanted →
        wanted.listChange ((schema.ofWire raw).get? "enabled_vlans") = none

instance (want raw changes : Attributes) : Decidable (UpdateLasts want raw changes) :=
  decidable_of_iff (_ ∧ _ ∧ _ ∧ _)
    ⟨fun h => ⟨h.1, h.2.1, h.2.2.1, h.2.2.2⟩,
      fun h => ⟨h.unshadowed, h.address, h.enabledVlans, h.disabledVlans⟩⟩

/-! ## Updates -/

variable {pass : Pass} {params want raw changes created view : Attributes}
  {partition : String} {target : Target}

/-- The switch for disabled VLANs as it is stored. -/
theorem flag?_ofWire (hraw : raw.Distinct) :
    (schema.ofWire raw).flag? "vlansDisabled" = raw.flag? "vlansDisabled" :=
  (plain_of_mem "vlansDisabled" (by decide)).flag?_ofWire hraw rfl

section Vlans

variable (haccepts : kind.Accepts partition params target want) (hraw : raw.Distinct)
  (hchanges : kind.changes want (kind.read raw) = .ok changes)
  (hfollows : kind.Follows followed changes (schema.ofWire raw) view)

include haccepts hraw hchanges hfollows

/-- After enabled VLANs were sent, both lists are quiet exactly when the switch
for disabled ones was off. -/
theorem quiet_vlans_of_enabled {vlans : Value}
    (hsent : changes.get? "enabled_vlans" = some vlans) :
    (schema.changesAt want (read view) "enabled_vlans" = .ok [] ∧
        schema.changesAt want (read view) "disabled_vlans" = .ok []) ↔
      raw.flag? "vlansDisabled" ≠ some true := by
  have hon := enabled_ordinary haccepts
  have hoff := disabled_ordinary haccepts
  have henabledName : "enabled_vlans" ∈ schema.names := by decide
  have hdisabledName : "disabled_vlans" ∈ schema.names := by decide
  obtain ⟨hread, hother⟩ := read_of_enabled hfollows hsent
  rw [flag?_ofWire hraw] at hread hother
  by_cases hswitch : raw.flag? "vlansDisabled" = some true
  · -- the list is read as the disabled one, so the enabled one is as before
    rw [if_pos hswitch] at hread
    have hheld : (kind.read raw).get? "enabled_vlans" =
        (schema.ofWire raw).get? "enabled_vlans" := by
      rw [ResourceKind.read]
      change (read (schema.ofWire raw)).get? "enabled_vlans" = _
      rw [get?_enabled_read, flag?_ofWire hraw, if_pos hswitch]
    refine iff_of_false ?_ fun hkept => hkept hswitch
    rintro ⟨hquiet, -⟩
    exact hon.changesAt_ne_of_kept pairsMutually henabledName hchanges hsent
      (hread.trans hheld.symm) hquiet
  · rw [if_neg hswitch] at hread
    have hdisabledRead := hother hswitch
    refine iff_of_true ⟨?_, ?_⟩ hswitch
    · exact hon.changesAt_of_sent pairsMutually henabledName hchanges hsent hread
    · -- the disabled list is stored under its own name, whether sent or not
      cases hdisabled : changes.get? "disabled_vlans" with
      | some others =>
          refine hoff.changesAt_of_sent pairsMutually hdisabledName hchanges hdisabled ?_
          rw [hdisabledRead, hdisabled, Option.map_some, Option.some_or,
            hoff.coerced_of_sent pairsMutually hdisabledName hchanges hdisabled]
      | none =>
          refine hoff.changesAt_of_unsent pairsMutually hdisabledName hchanges hdisabled ?_
          rw [hdisabledRead, hdisabled, Option.map_none, Option.none_or, ResourceKind.read]
          change _ = (read (schema.ofWire raw)).get? "disabled_vlans"
          rw [get?_disabled_read, flag?_ofWire hraw, if_neg hswitch]

omit hraw in
/-- After disabled VLANs were sent alone, both lists are quiet exactly when the
enabled ones are stored under their own name. -/
theorem quiet_vlans_of_disabled {vlans : Value}
    (hunsent : changes.get? "enabled_vlans" = none)
    (hsent : changes.get? "disabled_vlans" = some vlans) :
    (schema.changesAt want (read view) "enabled_vlans" = .ok [] ∧
        schema.changesAt want (read view) "disabled_vlans" = .ok []) ↔
      ∀ wanted, want.get? "enabled_vlans" = some wanted →
        wanted.listChange ((schema.ofWire raw).get? "enabled_vlans") = none := by
  have hon := enabled_ordinary haccepts
  have hoff := disabled_ordinary haccepts
  obtain ⟨hread, hother⟩ := read_of_disabled hfollows hunsent hsent
  have hquiet := hoff.changesAt_of_sent pairsMutually (by decide) hchanges hsent hother
  rw [and_iff_left hquiet, Schema.changesAt_eq_nil_iff hon.single_comparison,
    Schema.comparison_of_field? hon.declared, hread]
  exact Iff.rfl

omit hraw in
/-- When no VLANs were sent, both lists are quiet. -/
theorem quiet_vlans_of_unsent (henabled : changes.get? "enabled_vlans" = none)
    (hdisabled : changes.get? "disabled_vlans" = none) :
    schema.changesAt want (read view) "enabled_vlans" = .ok [] ∧
      schema.changesAt want (read view) "disabled_vlans" = .ok [] := by
  obtain ⟨hread, hother⟩ := read_of_no_vlans hfollows henabled hdisabled
  constructor
  · exact (enabled_ordinary haccepts).changesAt_of_unsent pairsMutually (by decide) hchanges
      henabled hread
  · exact (disabled_ordinary haccepts).changesAt_of_unsent pairsMutually (by decide) hchanges
      hdisabled hother

/-- After an update the lists of VLANs are quiet exactly when the list that was
sent is read under its own name, and the other one is kept. -/
theorem quiet_vlans_updated_iff :
    (schema.changesAt want (read view) "enabled_vlans" = .ok [] ∧
        schema.changesAt want (read view) "disabled_vlans" = .ok []) ↔
      (changes.contains "enabled_vlans" = true → raw.flag? "vlansDisabled" ≠ some true) ∧
        (changes.contains "disabled_vlans" = true →
          changes.contains "enabled_vlans" = false →
            ∀ wanted, want.get? "enabled_vlans" = some wanted →
              wanted.listChange ((schema.ofWire raw).get? "enabled_vlans") = none) := by
  cases henabled : changes.get? "enabled_vlans" with
  | some vlans =>
      have hsent : changes.contains "enabled_vlans" = true :=
        Attributes.contains_iff.mpr ⟨vlans, henabled⟩
      rw [quiet_vlans_of_enabled haccepts hraw hchanges hfollows henabled]
      simp [hsent]
  | none =>
      have hunsent : changes.contains "enabled_vlans" = false :=
        Attributes.contains_eq_false_iff.mpr henabled
      cases hdisabled : changes.get? "disabled_vlans" with
      | some vlans =>
          have hsent : changes.contains "disabled_vlans" = true :=
            Attributes.contains_iff.mpr ⟨vlans, hdisabled⟩
          rw [quiet_vlans_of_disabled haccepts hchanges hfollows henabled hdisabled]
          simp [hunsent, hsent]
      | none =>
          have hneither : changes.contains "disabled_vlans" = false :=
            Attributes.contains_eq_false_iff.mpr hdisabled
          refine iff_of_true (quiet_vlans_of_unsent haccepts hchanges hfollows henabled
            hdisabled) ?_
          simp [hunsent, hneither]

end Vlans

/-- A port that is read has 64 bits. -/
theorem fits_of_get?_read (hraw : raw.WellFormed) {port : Int}
    (hport : (kind.read raw).get? "port" = some (.int port)) :
    Text.fitsInt64 port = true := by
  cases hsplit : ((schema.ofWire raw).text? "destination").bind splitPort with
  | some cut =>
      obtain ⟨address, number⟩ := cut
      obtain ⟨-, hread⟩ := get?_read_of_splitPort _ hsplit
      obtain ⟨destination, -, hcut⟩ := Option.bind_eq_some_iff.mp hsplit
      obtain rfl := Value.int.inj (Option.some.inj (hread.symm.trans hport))
      exact fits_of_splitPort hcut
  | none =>
      obtain ⟨-, hread⟩ := get?_read_of_splitPort_eq_none _ hsplit
      exact (plain_of_mem "port" (by decide)).fits_of_get?_ofWire hraw (hread.symm.trans hport)

/-- A port that is sent has 64 bits, whether it is wanted or read. -/
theorem fits_of_sent (haccepts : kind.Accepts partition params target want)
    (hraw : raw.WellFormed)
    (hsent : changes.get? "port" = (want.get? "port").or ((kind.read raw).get? "port"))
    {port : Int} (hport : changes.get? "port" = some (.int port)) :
    Text.fitsInt64 port = true := by
  rw [hsent] at hport
  cases hwanted : want.get? "port" with
  | some value =>
      obtain ⟨number, rfl, hfits⟩ := int_of_port haccepts hwanted
      rw [hwanted, Option.some_or] at hport
      exact Value.int.inj (Option.some.inj hport) ▸ hfits
  | none =>
      rw [hwanted, Option.none_or] at hport
      exact fits_of_get?_read hraw hport

/-- A port is wanted with a destination only, so where either differs a
destination is wanted. -/
theorem wanted_of_differs (haccepts : kind.Accepts partition params target want)
    (hdiffers : (Schema.differs want (kind.read raw) "destination" ||
      Schema.differs want (kind.read raw) "port") = true) :
    ∃ address, want.get? "destination" = some (.text address) := by
  have hcontains : ∃ wanted, want.get? "destination" = some wanted := by
    rcases Bool.or_eq_true_iff.mp hdiffers with hdestination | hport
    · exact Schema.wanted_of_differs hdestination
    · obtain ⟨port, hport⟩ := Schema.wanted_of_differs hport
      have hset := isSet_of_port haccepts (Attributes.contains_iff.mpr ⟨port, hport⟩)
      exact Attributes.contains_iff.mp (Attributes.contains_of_isSet hset)
  obtain ⟨wanted, hwanted⟩ := hcontains
  obtain ⟨address, rfl⟩ := text_of_destination haccepts hwanted
  exact ⟨address, hwanted⟩

/-- After an update the address is quiet exactly when it is kept. -/
theorem quiet_address_updated_iff (haccepts : kind.Accepts partition params target want)
    (hraw : raw.WellFormed) (hchanges : kind.changes want (kind.read raw) = .ok changes)
    (hfollows : kind.Follows followed changes (schema.ofWire raw) view) :
    (schema.changesAt want (read view) "destination" = .ok [] ∧
        schema.changesAt want (read view) "port" = .ok []) ↔
      AddressKept changes := by
  have hpaired : kind.schema.comparison "destination" = .paired "port" := rfl
  have hsent := faithful.get?_changes_of_pair hchanges (by decide) hpaired
  by_cases hdiffers : (Schema.differs want (kind.read raw) "destination" ||
      Schema.differs want (kind.read raw) "port") = true
  · -- both names are sent as soon as one of them differs
    simp only [if_pos hdiffers] at hsent
    obtain ⟨address, hwanted⟩ := wanted_of_differs haccepts hdiffers
    have hdestination : changes.get? "destination" = some (.text address) := by
      rw [hsent _ (Or.inl rfl), hwanted, Option.some_or]
    rw [quiet_address_iff haccepts, hwanted]
    simp only [Option.some.injEq, forall_eq']
    rcases read_of_address hfollows hdestination
        fun _ => fits_of_sent haccepts hraw (hsent _ (Or.inr rfl)) with
      ⟨hkept, hread, hreadPort⟩ | ⟨hlost, hread⟩
    · refine iff_of_true ⟨hread, fun wantedPort hwantedPort => ?_⟩ hkept
      obtain ⟨port, rfl, -⟩ := int_of_port haccepts hwantedPort
      exact hreadPort port (by rw [hsent _ (Or.inr rfl), hwantedPort, Option.some_or])
    · exact iff_of_false (fun hquiet => hread hquiet.1) hlost
  · -- nothing was sent, so both names are as they were
    simp only [if_neg hdiffers] at hsent
    have hdestination := hsent "destination" (Or.inl rfl)
    obtain ⟨hread, hreadPort⟩ := read_of_no_address hfollows hdestination
    refine iff_of_true ?_ ?_
    · exact (Schema.changesAt_pair_kept_iff rfl rfl hread hreadPort).mpr
        (Bool.eq_false_iff.mpr hdiffers)
    · intro address htext
      rw [Attributes.text?_eq_some_iff, hdestination] at htext
      cases htext

/-! ## Creations -/

theorem get?_created (hcreated : kind.creation want = .ok created) {name : String}
    (hname : name ∈ schema.names) :
    created.get? name = (want.get? name).filter fun value => !value.isClear :=
  ResourceKind.get?_of_creation_of_no_defaults hcreated rfl hname

/-- The lists of VLANs of a new server are read under their own names. -/
theorem get?_vlans_created (hcreated : kind.creation want = .ok created)
    (haccepts : kind.Accepts partition params target want)
    (hfollows : kind.Follows followed created .empty view) {name : String}
    (hname : name = "enabled_vlans" ∨ name = "disabled_vlans") :
    (read view).get? name = created.get? name := by
  have hcoerced : (created.get? "disabled_vlans").map (schema.coerced "disabled_vlans") =
      created.get? "disabled_vlans" := by
    cases hsent : created.get? "disabled_vlans" with
    | none => rfl
    | some vlans =>
        rw [get?_created hcreated (by decide)] at hsent
        have hoff := disabled_ordinary haccepts
        rw [Option.map_some, Schema.coerced_of_holds hoff.declared
          (hoff.holds vlans (Option.filter_eq_some_iff.mp hsent).1)]
  have hempty : ∀ other, (read .empty).get? other = none := by
    intro other
    rfl
  -- on an empty base the switch is on only where it was written
  cases henabled : created.get? "enabled_vlans" with
  | some vlans =>
      obtain ⟨hread, hother⟩ := read_of_enabled hfollows henabled
      have hoff : Attributes.empty.flag? "vlansDisabled" ≠ some true := by decide
      rw [if_neg hoff] at hread
      rcases hname with rfl | rfl
      · rw [hread, henabled]
      · rw [hother hoff, hcoerced, Attributes.get?_empty, Option.or_none]
  | none =>
      cases hdisabled : created.get? "disabled_vlans" with
      | some vlans =>
          obtain ⟨hread, hother⟩ := read_of_disabled hfollows henabled hdisabled
          rcases hname with rfl | rfl
          · rw [hread, Attributes.get?_empty, henabled]
          · rw [hother, hdisabled]
      | none =>
          obtain ⟨hread, hother⟩ := read_of_no_vlans hfollows henabled hdisabled
          rcases hname with rfl | rfl
          · rw [hread, hempty, henabled]
          · rw [hother, hempty, hdisabled]

/-- After a creation the lists of VLANs are quiet. -/
theorem quiet_vlans_created (hcreated : kind.creation want = .ok created)
    (haccepts : kind.Accepts partition params target want)
    (hfollows : kind.Follows followed created .empty view) {name : String} {field : Field}
    (hname : name = "enabled_vlans" ∨ name = "disabled_vlans")
    (hordinary : schema.Ordinary want name field) (hfield : field.comparison = .unorderedList) :
    schema.changesAt want (read view) name = .ok [] := by
  refine (hordinary.changesAt_dropped_iff (by simp [hfield]) ?_).mpr (by simp [hfield,
    Comparison.forgives])
  have hdeclared : name ∈ schema.names := Schema.mem_names_of_field? hordinary.declared
  rw [get?_vlans_created hcreated haccepts hfollows hname, get?_created hcreated hdeclared]

/-- After a creation the address is quiet exactly when it is kept. -/
theorem quiet_address_created_iff (hcreated : kind.creation want = .ok created)
    (haccepts : kind.Accepts partition params target want)
    (hfollows : kind.Follows followed created .empty view) :
    (schema.changesAt want (read view) "destination" = .ok [] ∧
        schema.changesAt want (read view) "port" = .ok []) ↔ AddressKept want := by
  have hset : want.isSet "destination" = true := by
    have hneeded := ResourceKind.required_of_creation hcreated "destination" (by decide)
    rwa [ResourceKind.filled_eq_of_no_defaults rfl] at hneeded
  obtain ⟨wanted, hwanted, hunclear⟩ := (Option.any_eq_true _ _).mp hset
  obtain ⟨address, rfl⟩ := text_of_destination haccepts hwanted
  have hdestination : created.get? "destination" = some (.text address) := by
    rw [get?_created hcreated (by decide), hwanted, Option.filter_some, if_pos hunclear]
  have hport : created.get? "port" = want.get? "port" := by
    rw [get?_created hcreated (by decide)]
    cases hwantedPort : want.get? "port" with
    | none => rfl
    | some value =>
        obtain ⟨port, rfl, -⟩ := int_of_port haccepts hwantedPort
        rfl
  have hsame : AddressKept created ↔ AddressKept want := by
    unfold AddressKept Attributes.text? Attributes.int?
    rw [hdestination, hport, hwanted]
  have hfits : ∀ port, created.get? "port" = some (.int port) →
      Text.fitsInt64 port = true := by
    intro port hsent
    obtain ⟨number, heq, hfits⟩ := int_of_port haccepts (hport ▸ hsent)
    exact Value.int.inj heq ▸ hfits
  rw [quiet_address_iff haccepts, ← hsame, hwanted]
  simp only [Option.some.injEq, forall_eq']
  rcases read_of_address hfollows hdestination hfits with
    ⟨hkept, hread, hreadPort⟩ | ⟨hlost, hread⟩
  · refine iff_of_true ⟨hread, fun wantedPort hwantedPort => ?_⟩ hkept
    obtain ⟨port, rfl, -⟩ := int_of_port haccepts hwantedPort
    exact hreadPort port (hport.trans hwantedPort)
  · exact iff_of_false (fun hquiet => hread hquiet.1) hlost

/-! ## Both passes -/

/-- A created server is at rest exactly when its address is kept. -/
theorem rests_created_iff (hkind : pass.kind = kind)
    (haccepts : kind.Accepts partition params target want)
    (hcreated : kind.creation want = .ok created) :
    pass.Rests want (pass.creationBody created) ↔ AddressKept want := by
  have hfollows := Pass.follows_created hkind faithful bare_of_mem_followed hcreated
  have haddress := quiet_address_created_iff hcreated haccepts hfollows
  have hunflagged := Pass.unflagged_created hkind faithful switched
    (ResourceKind.distinct_of_creation hcreated) (ResourceKind.names_of_creation hcreated) want
  constructor
  · intro hrests
    have hsettled := hrests.settled
    rw [hkind] at hsettled
    exact haddress.mp ⟨hsettled.quiet "destination" (by decide),
      hsettled.quiet "port" (by decide)⟩
  · intro hkept
    obtain ⟨hdestination, hport⟩ := haddress.mpr hkept
    refine ⟨?_, by rw [hkind] at hunflagged ⊢; exact hunflagged⟩
    rw [hkind]
    refine ⟨fun _ hdependency => (List.not_mem_nil hdependency).elim, fun name hname => ?_⟩
    -- only the reshaped names need lemmas of their own
    by_cases hplain : name ∈ reshaped
    · simp only [reshaped, List.mem_cons, List.not_mem_nil, or_false] at hplain
      rcases hplain with rfl | rfl | rfl | rfl
      · exact hdestination
      · exact hport
      · exact quiet_vlans_created hcreated haccepts hfollows (Or.inl rfl)
          (enabled_ordinary haccepts) rfl
      · exact quiet_vlans_created hcreated haccepts hfollows (Or.inr rfl)
          (disabled_ordinary haccepts) rfl
    · obtain ⟨field, hfield, rfl⟩ := List.mem_map.mp hname
      have hdestination : field.name ≠ "destination" := fun heq => hplain (by simp [heq, reshaped])
      have hport : field.name ≠ "port" := fun heq => hplain (by simp [heq, reshaped])
      obtain ⟨-, hkeyword, hforgives⟩ := fields_single field hfield hdestination hport
      have hordinary := ordinary haccepts hfield hdestination hport
      exact (Pass.quiet_created_iff hkind faithful (transparent hname hplain) hordinary
        hkeyword hcreated).mpr fun hclears =>
          hforgives (hordinary.clearable_of_clears hclears)

/-- After an update a name that passes reader and writer is quiet unless it was
shadowed. -/
theorem quiet_plain_updated_iff (hkind : pass.kind = kind)
    (haccepts : kind.Accepts partition params target want)
    (hchanges : kind.changes want (kind.read raw) = .ok changes) {name : String}
    (hname : name ∈ schema.names) (hplain : name ∉ reshaped) :
    schema.changesAt want (kind.read (raw.update
        (pass.updateBody want (kind.read raw) changes))) name = .ok [] ↔
      (name ∈ changes.names →
        schema.shadowed (schema.aliases.toWire name) raw.entries = false) := by
  obtain ⟨field, hfield, rfl⟩ := List.mem_map.mp hname
  have hdestination : field.name ≠ "destination" := fun heq => hplain (by simp [heq, reshaped])
  have hport : field.name ≠ "port" := fun heq => hplain (by simp [heq, reshaped])
  exact Pass.quiet_updated_iff hkind faithful (transparent hname hplain)
    (ordinary haccepts hfield hdestination hport) hchanges

/-- Names that are reshaped are plain, so they are never shadowed. -/
theorem unshadowed_of_reshaped (hraw : raw.Distinct) {name : String} (hname : name ∈ reshaped) :
    schema.shadowed (schema.aliases.toWire name) raw.entries = false := by
  have hfollowed : ∀ name ∈ reshaped, name ∈ followed := by decide
  exact (bare_of_mem_followed name (hfollowed name hname)).1.shadowed_toWire hraw

/-- An updated server is at rest exactly when the update lasts. -/
theorem rests_updated_iff (hkind : pass.kind = kind)
    (haccepts : kind.Accepts partition params target want) (hraw : raw.WellFormed)
    (hchanges : kind.changes want (kind.read raw) = .ok changes) :
    pass.Rests want (raw.update (pass.updateBody want (kind.read raw) changes)) ↔
      UpdateLasts want raw changes := by
  have hfollows := Pass.follows_updated hkind faithful bare_of_mem_followed hraw.distinct hchanges
    (kind.read raw)
  have haddress := quiet_address_updated_iff haccepts hraw hchanges hfollows
  have hvlans := quiet_vlans_updated_iff haccepts hraw.distinct hchanges hfollows
  have hunflagged := Pass.unflagged_updated hkind faithful switched
    (Schema.distinct_of_changes hchanges) (faithful.names_of_changes hchanges)
    hraw.distinct want
  constructor
  · intro hrests
    have hsettled := hrests.settled
    rw [hkind] at hsettled
    obtain ⟨hon, hoff⟩ := hvlans.mp ⟨hsettled.quiet "enabled_vlans" (by decide),
      hsettled.quiet "disabled_vlans" (by decide)⟩
    refine ⟨fun name hname => ?_, ?_, hon, hoff⟩
    · have hdeclared := faithful.names_of_changes hchanges name hname
      by_cases hplain : name ∈ reshaped
      · exact unshadowed_of_reshaped hraw.distinct hplain
      · exact (quiet_plain_updated_iff hkind haccepts hchanges hdeclared hplain).mp
          (hsettled.quiet name hdeclared) hname
    · exact haddress.mp ⟨hsettled.quiet "destination" (by decide),
        hsettled.quiet "port" (by decide)⟩
  · intro hlasts
    obtain ⟨hdestination, hport⟩ := haddress.mpr hlasts.address
    obtain ⟨henabled, hdisabled⟩ := hvlans.mpr ⟨hlasts.enabledVlans, hlasts.disabledVlans⟩
    refine ⟨?_, by rw [hkind] at hunflagged ⊢; exact hunflagged⟩
    rw [hkind]
    refine ⟨fun _ hdependency => (List.not_mem_nil hdependency).elim, fun name hname => ?_⟩
    by_cases hplain : name ∈ reshaped
    · simp only [reshaped, List.mem_cons, List.not_mem_nil, or_false] at hplain
      rcases hplain with rfl | rfl | rfl | rfl
      · exact hdestination
      · exact hport
      · exact henabled
      · exact hdisabled
    · exact (quiet_plain_updated_iff hkind haccepts hchanges hname hplain).mpr
        fun hmem => hlasts.unshadowed name hmem

/-! ## Work orders -/

variable {order : WorkOrder} {patience : Nat} {shelf : Device.Shelf} {report : Report}

/-- A work order for a virtual server that succeeds is repeated quietly exactly
when what it leaves behind lasts. -/
theorem virtual_repeats_iff (hentry : Entry.ofName order.entry = .ok .virtual)
    (hlive : order.checkOnly = false) (hformed : shelf.snapshot.WellFormed)
    (hok : (Plan.run order patience shelf).result = some (.ok report)) :
    Plan.Repeats order patience shelf ↔
      Plan.Lasts order patience shelf.snapshot AddressKept UpdateLasts := by
  refine Plan.repeats_iff_lasts (fun _ => Plan.kind_of_passOf hentry rfl) immediate hlive hok
    ?_ ?_
  · intro pass want created hkind haccepts _ hcreated
    exact rests_created_iff hkind haccepts hcreated
  · intro pass want raw changes hkind haccepts hstored hchanges
    exact rests_updated_iff hkind haccepts (hformed.get? hstored) hchanges

/-- A device with one server, which is kept off some VLANs. -/
def fencedShelf : Device.Shelf :=
  ⟨.ofList [("ltm/virtual:/Common/vs1", ⟨[("destination", .text "/Common/10.0.0.1:80"),
    ("vlans", .list ["/Common/external"]), ("vlansDisabled", .flag true),
    ("enabled", .flag true)]⟩)], []⟩

/-- Asks for other VLANs that the server is kept off. -/
def refenced : WorkOrder where
  entry := Entry.virtual.name
  name := some "vs1"
  target := .enabled
  params := ⟨[("disabled_vlans", .list ["/Common/internal"])]⟩

/-- Asks for the VLANs that the server is to be on. -/
def unfenced : WorkOrder :=
  { refenced with params := ⟨[("enabled_vlans", .list ["/Common/internal"])]⟩ }

theorem wellFormed_fencedShelf : fencedShelf.snapshot.WellFormed := by decide +kernel

theorem refenced_repeats :
    (∃ report, (Plan.run refenced 0 fencedShelf).result = some (.ok report)) ∧
      Plan.Repeats refenced 0 fencedShelf := by
  obtain ⟨report, hok⟩ : ∃ report, (Plan.run refenced 0 fencedShelf).result =
      some (.ok report) := Pass.exists_report_of_succeeds (by decide +kernel)
  exact ⟨⟨report, hok⟩,
    (virtual_repeats_iff rfl rfl wellFormed_fencedShelf hok).mpr (by decide +kernel)⟩

/-- The switch for disabled VLANs is left on, so the VLANs that were sent are
read as disabled ones ever after. -/
theorem unfenced_not_repeats :
    (∃ report, (Plan.run unfenced 0 fencedShelf).result = some (.ok report)) ∧
      ¬Plan.Repeats unfenced 0 fencedShelf :=
  ⟨Pass.exists_report_of_succeeds (by decide +kernel),
    Plan.not_repeats_of_idle_eq_false (by decide +kernel)⟩

end Virtual
end Catalog
end DesiredState
