import DesiredState.Proofs.Pass.Repetition
import DesiredState.Proofs.Pass.Stored

/-!
# Repeating a work order for a log destination

Reading a destination adds its type and writing one drops it; all other
attributes are ordinary.  A creation is therefore repeated quietly unless the
caller gives another type, which only the second pass refuses.  An update is
repeated quietly unless something it sends is shadowed or it clears the
destination to forward to while it sets a pool.
-/

namespace DesiredState
namespace Catalog
namespace LogEndpoint

/-- A creation lasts when the caller gives no type or the right one. -/
def CreationLasts (variety : Variety) (want : Attributes) : Prop :=
  ∀ given, want.text? "type" = some given → given = variety.name

/-- What makes an update last. -/
structure UpdateLasts (variety : Variety) (want raw changes : Attributes) : Prop where
  /-- Nothing that is sent is shadowed by another stored entry. -/
  unshadowed : (schema variety).Unshadowed changes raw
  /-- No required attribute is cleared while the one that depends on it is set. -/
  uncleared : ∀ dependency ∈ dependencies variety,
    ¬(want.clears dependency.required = true ∧ want.isSet dependency.dependent = true)

instance (variety : Variety) (want : Attributes) : Decidable (CreationLasts variety want) :=
  inferInstanceAs (Decidable (∀ given, want.text? "type" = some given → _))

instance (variety : Variety) (want raw changes : Attributes) :
    Decidable (UpdateLasts variety want raw changes) :=
  decidable_of_iff (_ ∧ _) ⟨fun h => ⟨h.1, h.2⟩, fun h => ⟨h.unshadowed, h.uncleared⟩⟩

variable {variety : Variety}

/-! ## The fields -/

theorem nodup_names (variety : Variety) : (schema variety).names.Nodup := by
  cases variety <;> decide

theorem returns_of_mem_names (variety : Variety) :
    ∀ name ∈ (schema variety).names, (schema variety).Returns name := by
  cases variety <;> decide

theorem plain_name (variety : Variety) : (schema variety).Plain "name" := by
  cases variety <;> decide

/-- Every field is judged on its own and goes with its shape.  A value that asks
for clearing is missed on creation only under the type and under names that a
creation needs. -/
theorem fields_ordinary (variety : Variety) :
    ∀ field ∈ (schema variety).fields,
      field.comparison.partner? = none ∧ field.Consistent ∧
        field.comparison ≠ .keywordOrSet ∧ field.name ≠ "name" ∧
          (field.name ≠ "type" → field.shape.clearable = true →
            field.comparison.forgives = true ∨ field.name ∈ requiredOnCreate variety) := by
  cases variety <;> decide

/-- The names in dependencies are optional texts without defaults; the required
one is needed on creation. -/
theorem dependencies_ordinary (variety : Variety) :
    ∀ dependency ∈ dependencies variety,
      (∀ name ∈ [dependency.required, dependency.dependent], name ≠ "type" ∧
        name ∈ (schema variety).names ∧
          (schema variety).comparison name = .optionalText ∧
            (defaults variety).contains name = false) ∧
      dependency.required ∈ requiredOnCreate variety := by
  cases variety <;> decide

theorem type_declared (variety : Variety) :
    (schema variety).field? "type" =
      some ((Field.choice "type" (Variety.all.map Variety.name)).comparedBy .immutable) := by
  cases variety <;> rfl

theorem pairsMutually (variety : Variety) :
    (schema variety).PairsMutually (schema variety).names :=
  Schema.pairsMutually_of_partners (nodup_names variety) (by cases variety <;> decide)

theorem faithful (variety : Variety) : (kind variety).Faithful where
  updatable := rfl
  paired := pairsMutually variety
  writes := by
    intro body hdistinct hnames
    refine ⟨hdistinct.erase "type", fun name hname => ?_⟩
    exact returns_of_mem_names variety name (hnames name (Attributes.mem_names_of_erase hname))
  named := plain_name variety
  flagged := by
    intro flags hflags
    cases hflags

/-- All names but the type pass reader and writer. -/
theorem transparent {field : Field} (hfield : field ∈ (schema variety).fields)
    (htype : field.name ≠ "type") : (kind variety).Transparent field.name where
  returns := returns_of_mem_names variety _ (List.mem_map_of_mem hfield)
  read := fun held => held.get?_insert_of_ne htype _
  written := fun body => body.get?_erase_of_ne htype
  unnamed := (fields_ordinary variety field hfield).2.2.2.1
  unflagged := by
    intro flags hflags
    cases hflags

theorem get?_type_read (raw : Attributes) :
    ((kind variety).read raw).get? "type" = some (.text variety.name) :=
  Attributes.get?_insert_self _ _ _

/-! ## The type -/

variable {pass : Pass} {params want raw changes created : Attributes}

/-- Every declared name but the type is ordinary in a want map. -/
theorem ordinary {partition : String} {target : Target}
    (h : (kind variety).Accepts partition params target want) {field : Field}
    (hfield : field ∈ (schema variety).fields) :
    (schema variety).Ordinary want field.name field :=
  Schema.ordinary_of_want (nodup_names variety) h.normal hfield
    (fields_ordinary variety field hfield).1 (fields_ordinary variety field hfield).2.1

theorem type_ordinary {partition : String} {target : Target}
    (h : (kind variety).Accepts partition params target want) :
    (schema variety).Ordinary want "type"
      ((Field.choice "type" (Variety.all.map Variety.name)).comparedBy .immutable) := by
  refine ordinary h (List.mem_of_find?_eq_some (type_declared variety))

/-- The type is quiet exactly when none is wanted but the right one. -/
theorem quiet_type_iff {partition : String} {target : Target}
    (h : (kind variety).Accepts partition params target want) (raw : Attributes) :
    (schema variety).changesAt want ((kind variety).read raw) "type" = .ok [] ↔
      CreationLasts variety want := by
  have hordinary := type_ordinary h
  rw [Schema.changesAt_eq_nil_iff hordinary.single_comparison,
    Schema.comparison_of_field? hordinary.declared, get?_type_read]
  unfold CreationLasts Attributes.text?
  cases hwant : want.get? "type" with
  | none => simp
  | some wanted =>
      have hnormal := hordinary.holds wanted hwant
      cases wanted with
      | text given =>
          have hemits : Comparison.immutable.emits (.text given)
              (some (.text variety.name)) = none ↔ _ :=
            Comparison.emits_immutable_iff rfl _
          simpa [Field.comparedBy, Value.asText, eq_comm] using hemits
      | _ => exact hnormal.elim

/-- An update never sends a type. -/
theorem type_unchanged {partition : String} {target : Target}
    (h : (kind variety).Accepts partition params target want)
    (hchanges : (kind variety).changes want ((kind variety).read raw) = .ok changes) :
    "type" ∉ changes.names ∧
      (schema variety).changesAt want ((kind variety).read raw) "type" = .ok [] := by
  have hordinary := type_ordinary h
  have hname : "type" ∈ (schema variety).names :=
    Schema.mem_names_of_field? (type_declared variety)
  obtain ⟨entries, hentries⟩ : ∃ entries, (schema variety).changesAt want
      ((kind variety).read raw) "type" = .ok entries :=
    Schema.judged_of_changes hchanges hname
  -- another type than the one that is read would have been refused
  have hquiet : (schema variety).changesAt want ((kind variety).read raw) "type" = .ok [] := by
    rw [hentries]
    unfold Schema.changesAt at hentries
    rw [Schema.comparison_of_field? hordinary.declared, get?_type_read] at hentries
    cases hwant : want.get? "type" with
    | none =>
        rw [hwant] at hentries
        exact hentries.symm
    | some wanted =>
        simp only [hwant, Field.comparedBy] at hentries
        split at hentries
        · exact hentries.symm
        · cases hentries
  refine ⟨?_, hquiet⟩
  rw [← Attributes.get?_eq_none_iff, hordinary.get?_changes (pairsMutually variety) hname
    hchanges]
  rw [Schema.changesAt_eq_nil_iff hordinary.single_comparison,
    Schema.comparison_of_field? hordinary.declared] at hquiet
  cases hwant : want.get? "type" with
  | none => rfl
  | some wanted => exact hquiet wanted hwant

/-! ## Both passes -/

theorem immediate (variety : Variety) : (kind variety).Immediate where
  jobless := fun _ => rfl
  flagged := by
    intro flags hflags
    cases hflags
  writesNothing := rfl
  kept := by
    intro hsingleton
    cases hsingleton

/-- Declared names in dependencies, with their fields. -/
theorem field_of_dependency {dependency : Dependency}
    (hdependency : dependency ∈ dependencies variety) {name : String}
    (hname : name ∈ [dependency.required, dependency.dependent]) :
    ∃ field ∈ (schema variety).fields, field.name = name ∧ field.name ≠ "type" ∧
      field.comparison = .optionalText ∧ (defaults variety).get? name = none := by
  obtain ⟨htype, hdeclared, hcomparison, hdefault⟩ :=
    (dependencies_ordinary variety dependency hdependency).1 name hname
  obtain ⟨field, hfield, rfl⟩ := List.mem_map.mp hdeclared
  rw [Schema.comparison_of_field? (Schema.field?_of_mem (nodup_names variety) hfield)]
    at hcomparison
  exact ⟨field, hfield, rfl, htype, hcomparison,
    Attributes.contains_eq_false_iff.mp hdefault⟩

/-- What a creation needs is wanted, as far as it has no default. -/
theorem isSet_of_required (hcreated : (kind variety).creation want = .ok created)
    {name : String} (hrequired : name ∈ requiredOnCreate variety)
    (hdefault : want.contains name = true ∨ (defaults variety).get? name = none) :
    want.isSet name = true := by
  have hneeded := ResourceKind.required_of_creation hcreated name hrequired
  rw [Attributes.isSet, ResourceKind.get?_filled] at hneeded
  rw [Attributes.isSet]
  cases hwant : want.get? name with
  | some wanted => simpa [hwant] using hneeded
  | none =>
      rcases hdefault with hcontains | hdefault
      · simp [Attributes.contains, hwant] at hcontains
      · simp [hwant, kind, hdefault] at hneeded

/-- After a creation the names in dependencies are set as they are wanted. -/
theorem isSet_created (hkind : pass.kind = kind variety) {partition : String}
    {target : Target} (haccepts : (kind variety).Accepts partition params target want)
    (hcreated : (kind variety).creation want = .ok created) {dependency : Dependency}
    (hdependency : dependency ∈ dependencies variety) :
    ∀ name ∈ [dependency.required, dependency.dependent],
      ((kind variety).read (pass.creationBody created)).isSet name = want.isSet name := by
  intro name hname
  obtain ⟨field, hfield, rfl, htype, -, hdefault⟩ := field_of_dependency hdependency hname
  exact Pass.isSet_created hkind (faithful variety) (transparent hfield htype)
    (ordinary haccepts hfield) hdefault hcreated

/-- A creation needs what is required by a dependency. -/
theorem isSet_of_dependency (hcreated : (kind variety).creation want = .ok created)
    {dependency : Dependency} (hdependency : dependency ∈ dependencies variety) :
    want.isSet dependency.required = true := by
  obtain ⟨-, -, -, -, -, hdefault⟩ := field_of_dependency hdependency List.mem_cons_self
  exact isSet_of_required hcreated
    (dependencies_ordinary variety dependency hdependency).2 (Or.inr hdefault)

/-- After a creation every dependency is respected. -/
theorem respected_created (hkind : pass.kind = kind variety) {partition : String}
    {target : Target} (haccepts : (kind variety).Accepts partition params target want)
    (hcreated : (kind variety).creation want = .ok created) {dependency : Dependency}
    (hdependency : dependency ∈ dependencies variety) :
    dependency.check want ((kind variety).read (pass.creationBody created)) = .ok () := by
  have hset := isSet_created hkind haccepts hcreated hdependency
  rw [Dependency.check_after_creation_iff (hset _ (by simp)) (hset _ (by simp))]
  exact fun _ => isSet_of_dependency hcreated hdependency

/-- A created destination is at rest exactly when the creation lasts. -/
theorem rests_created_iff (hkind : pass.kind = kind variety) {partition : String}
    {target : Target} (haccepts : (kind variety).Accepts partition params target want)
    (hcreated : (kind variety).creation want = .ok created) :
    pass.Rests want (pass.creationBody created) ↔ CreationLasts variety want := by
  rw [Pass.rests_iff_settled hkind rfl]
  constructor
  · intro hsettled
    exact (quiet_type_iff haccepts _).mp
      (hsettled.quiet "type" (Schema.mem_names_of_field? (type_declared variety)))
  · intro hlasts
    refine ⟨fun dependency hdependency => ?_, fun name hname => ?_⟩
    · exact respected_created hkind haccepts hcreated hdependency
    · by_cases htype : name = "type"
      · rw [htype]
        exact (quiet_type_iff haccepts _).mpr hlasts
      · obtain ⟨field, hfield, rfl⟩ := List.mem_map.mp hname
        have hordinary := ordinary haccepts hfield
        obtain ⟨-, -, hkeyword, -, hforgives⟩ := fields_ordinary variety field hfield
        refine (Pass.quiet_created_iff hkind (faithful variety) (transparent hfield htype)
          hordinary hkeyword hcreated).mpr fun hclears => ?_
        -- a name that misses its cleared value is one that a creation needs set
        rcases hforgives htype (hordinary.clearable_of_clears hclears)
          with hforgives | hrequired
        · exact hforgives
        · have hcontains := Attributes.contains_of_clears hclears
          have hset := isSet_of_required hcreated hrequired (Or.inl hcontains)
          simp [Attributes.clears_eq_not_isSet hcontains, hset] at hclears

section Updates

variable {partition : String} {target : Target} (hkind : pass.kind = kind variety)
  (haccepts : (kind variety).Accepts partition params target want)
  (hchanges : (kind variety).changes want ((kind variety).read raw) = .ok changes)

include hkind haccepts hchanges

/-- After an update a name other than the type is quiet unless it was shadowed. -/
theorem quiet_field_updated_iff {field : Field} (hfield : field ∈ (schema variety).fields)
    (htype : field.name ≠ "type") :
    (schema variety).changesAt want ((kind variety).read (raw.update
        (pass.updateBody want ((kind variety).read raw) changes))) field.name = .ok [] ↔
      (field.name ∈ changes.names → (schema variety).shadowed
        ((schema variety).aliases.toWire field.name) raw.entries = false) :=
  Pass.quiet_updated_iff hkind (faithful variety) (transparent hfield htype)
    (ordinary haccepts hfield) hchanges

/-- With nothing shadowed the view is the caller's, so a dependency is respected
unless the required attribute is cleared while the other one is set. -/
theorem respected_updated_iff (hunshadowed : (schema variety).Unshadowed changes raw)
    {dependency : Dependency} (hdependency : dependency ∈ dependencies variety) :
    dependency.check want ((kind variety).read (raw.update
        (pass.updateBody want ((kind variety).read raw) changes))) = .ok () ↔
      ¬(want.clears dependency.required = true ∧ want.isSet dependency.dependent = true) := by
  have hset : ∀ name ∈ [dependency.required, dependency.dependent],
      ((kind variety).read (raw.update
          (pass.updateBody want ((kind variety).read raw) changes))).isSet name =
        if want.contains name then want.isSet name
        else ((kind variety).read raw).isSet name := by
    intro name hname
    obtain ⟨field, hfield, rfl, htype, hcomparison, -⟩ :=
      field_of_dependency hdependency hname
    exact Pass.isSet_updated hkind (faithful variety) (transparent hfield htype)
      (ordinary haccepts hfield) hcomparison hunshadowed hchanges
  exact Dependency.check_after_update_iff
    (Schema.respected_of_changes hchanges dependency hdependency)
    (hset _ (by simp)) (hset _ (by simp))

end Updates

/-- An updated destination is at rest exactly when the update lasts. -/
theorem rests_updated_iff (hkind : pass.kind = kind variety) {partition : String}
    {target : Target} (haccepts : (kind variety).Accepts partition params target want)
    (hchanges : (kind variety).changes want ((kind variety).read raw) = .ok changes) :
    pass.Rests want (raw.update (pass.updateBody want ((kind variety).read raw) changes)) ↔
      UpdateLasts variety want raw changes := by
  rw [Pass.rests_iff_settled hkind rfl]
  obtain ⟨hunsent, hquietType⟩ := type_unchanged haccepts hchanges
  constructor
  · intro hsettled
    have hunshadowed : (schema variety).Unshadowed changes raw := by
      intro name hname
      obtain ⟨field, hfield, rfl⟩ :=
        List.mem_map.mp ((faithful variety).names_of_changes hchanges name hname)
      have htype : field.name ≠ "type" := fun heq => hunsent (heq ▸ hname)
      exact (quiet_field_updated_iff hkind haccepts hchanges hfield htype).mp
        (hsettled.quiet _ (List.mem_map_of_mem hfield)) hname
    refine ⟨hunshadowed, fun dependency hdependency => ?_⟩
    exact (respected_updated_iff hkind haccepts hchanges hunshadowed hdependency).mp
      (hsettled.respected dependency hdependency)
  · rintro ⟨hunshadowed, huncleared⟩
    refine ⟨fun dependency hdependency => ?_, fun name hname => ?_⟩
    · exact (respected_updated_iff hkind haccepts hchanges hunshadowed hdependency).mpr
        (huncleared dependency hdependency)
    · by_cases htype : name = "type"
      · rw [htype]
        exact (quiet_type_iff haccepts _).mpr ((quiet_type_iff haccepts raw).mp hquietType)
      · obtain ⟨field, hfield, rfl⟩ := List.mem_map.mp hname
        exact (quiet_field_updated_iff hkind haccepts hchanges hfield htype).mpr
          fun hmem => hunshadowed _ hmem

/-! ## Work orders -/

variable {order : WorkOrder} {patience : Nat} {shelf : Device.Shelf} {report : Report}

theorem ofName_name (variety : Variety) : Variety.ofName variety.name = .ok variety := by
  cases variety <;> rfl

/-- A kind of log destinations is that of a variety. -/
theorem exists_variety {selector : Selector} {found : ResourceKind}
    (h : kindOf .logEndpoint selector = .ok found) : ∃ variety, found = kind variety := by
  cases hvariety : selector.variety with
  | none =>
      simp only [kindOf, hvariety] at h
      cases h
  | some name =>
      simp only [kindOf, hvariety] at h
      obtain ⟨variety, -, heq⟩ := bind_eq_ok_iff.mp h
      exact ⟨variety, (Except.ok.inj heq).symm⟩

theorem kindOf_selector (hvariety : order.variety = some variety.name) :
    kindOf .logEndpoint order.selector = .ok (kind variety) := by
  simp only [kindOf, WorkOrder.selector, hvariety, ofName_name]
  rfl

/-- A work order for a log destination that succeeds is repeated quietly exactly
when what it leaves behind lasts. -/
theorem logEndpoint_repeats_iff (hentry : Entry.ofName order.entry = .ok .logEndpoint)
    (hvariety : order.variety = some variety.name) (hlive : order.checkOnly = false)
    (hok : (Plan.run order patience shelf).result = some (.ok report)) :
    Plan.Repeats order patience shelf ↔
      Plan.Lasts order patience shelf.snapshot (CreationLasts variety)
        (UpdateLasts variety) := by
  refine Plan.repeats_iff_lasts
    (fun _ => Plan.kind_of_passOf hentry (kindOf_selector hvariety)) (immediate variety) hlive hok
    ?_ ?_
  · intro pass want created hkind haccepts _ hcreated
    exact rests_created_iff hkind haccepts hcreated
  · intro pass want raw changes hkind haccepts _ hchanges
    exact rests_updated_iff hkind haccepts hchanges

/-- A device that stores nothing. -/
def bareShelf : Device.Shelf := ⟨.empty, []⟩

/-- Asks for a destination that forwards to a collector. -/
def forwarded : WorkOrder where
  entry := Entry.logEndpoint.name
  variety := some Variety.splunk.name
  name := some "audit"
  params := ⟨[("forward_to", .text "collector")]⟩

/-- Asks for the same destination and gives another type along. -/
def mistyped : WorkOrder :=
  { forwarded with
    params := ⟨[("type", .text Variety.arcsight.name), ("forward_to", .text "collector")]⟩ }

theorem forwarded_repeats :
    (∃ report, (Plan.run forwarded 0 bareShelf).result = some (.ok report)) ∧
      Plan.Repeats forwarded 0 bareShelf := by
  obtain ⟨report, hok⟩ : ∃ report, (Plan.run forwarded 0 bareShelf).result =
      some (.ok report) := Pass.exists_report_of_succeeds (by decide +kernel)
  have hvariety : forwarded.variety = some Variety.splunk.name := rfl
  exact ⟨⟨report, hok⟩,
    (logEndpoint_repeats_iff rfl hvariety rfl hok).mpr (by decide +kernel)⟩

/-- The type is dropped where a destination is created, and refused where it is
updated. -/
theorem mistyped_not_repeats :
    (∃ report, (Plan.run mistyped 0 bareShelf).result = some (.ok report)) ∧
      ¬Plan.Repeats mistyped 0 bareShelf :=
  ⟨Pass.exists_report_of_succeeds (by decide +kernel),
    Plan.not_repeats_of_idle_eq_false (by decide +kernel)⟩

end LogEndpoint
end Catalog
end DesiredState
