import DesiredState.Proofs.Pass.Course
import DesiredState.Proofs.Pass.Stored
import DesiredState.Proofs.Schema.Exactness
import DesiredState.Proofs.Schema.Wire

/-!
# Creations and change sets

A creation and a change set are computed on different paths from what is
wanted.  A creation leaves out every value that asks for clearing, whatever the
comparison of its field, while a change set asks the comparison whether an unset
value is as good as a cleared one.  The two agree — a resource that was just
created needs no change — exactly where no comparison minds what the creation
left out.

This is followed for kinds that are stored as they are declared: nothing
reshapes their attributes, and no two of them share a name.  For these the view
of the created resource shows what is wanted, less what asks for clearing.
-/

namespace DesiredState

/-- Whether a comparison tells a missing value from a wanted one that asks for
clearing.  A keyword or list does so only for the empty text, since the keyword
`none` and the empty list are what it takes a missing value for. -/
def Comparison.minds : Comparison → Value → Bool
  | .unorderedList, _ | .optionalText, _ => false
  | .keywordOrSet, .text content => content == ""
  | .keywordOrSet, _ => false
  | .exact, _ | .immutable, _ | .paired _, _ => true

/-- What is wanted under a name is not missed where clearing values are left
out: its comparison does not mind, nor does it look at a partner that is left
out. -/
def Schema.Unmissed (schema : Schema) (want : Attributes) (name : String) : Prop :=
  ∀ wanted, want.get? name = some wanted →
    (wanted.isClear = true → (schema.comparison name).minds wanted = false) ∧
      ∀ partner ∈ (schema.comparison name).partner?, want.clears partner = false

instance (schema : Schema) (want : Attributes) (name : String) :
    Decidable (schema.Unmissed want name) :=
  inferInstanceAs (Decidable (∀ wanted, want.get? name = some wanted →
    (_ → _) ∧ ∀ partner ∈ (schema.comparison name).partner?, _))

/-- Whether a creation sends something of its own under a name: the name of the
resource, or a flag. -/
def ResourceKind.reserves (kind : ResourceKind) (name : String) : Bool :=
  name == "name" ||
    kind.flags.any fun flags => name == flags.enabled || name == flags.disabled

/-- A kind whose attributes are stored as they are declared. -/
structure ResourceKind.Unreshaped (kind : ResourceKind) : Prop where
  /-- Nothing is reshaped when it is read. -/
  reads : kind.reader = id
  /-- Nothing is reshaped when it is written. -/
  writes : kind.writer = id
  /-- No attribute depends on another one. -/
  independent : kind.dependencies = []
  /-- No logical name is declared twice. -/
  names : kind.schema.names.Nodup
  /-- No two fields are stored under one name. -/
  wires : kind.schema.wires.Nodup
  /-- No field is stored under a name that a creation uses itself. -/
  unreserved : ∀ wire ∈ kind.schema.wires, kind.reserves wire = false

/-- A missing value is as good as a wanted one that asks for clearing unless
the comparison minds. -/
theorem Comparison.emits_missing_iff (comparison : Comparison) {wanted : Value}
    (hclear : wanted.isClear = true) :
    comparison.emits wanted none = none ↔ comparison.minds wanted = false := by
  by_cases hkeyword : comparison = .keywordOrSet
  · subst hkeyword
    cases wanted with
    | text content =>
        have hcontent : content = "" ∨ content = "none" := by
          simpa [Value.isClear] using hclear
        rcases hcontent with rfl | rfl
        · simp [emits, minds, Value.keywordChange]
        · simp [emits, minds, Value.keywordChange]
    | list items =>
        obtain rfl : items = [] := by simpa [Value.isClear] using hclear
        simp [emits, minds, Value.keywordChange, Value.listChange, Value.elements]
    | flag _ | int _ | nested _ => cases hclear
  · rw [emits_none_iff comparison hkeyword hclear]
    cases comparison with
    | keywordOrSet => exact absurd rfl hkeyword
    | exact | immutable | paired _ | unorderedList | optionalText => simp [forgives, minds]

namespace Schema

variable {schema : Schema} {want view : Attributes} {name : String}

/-- A view shows what is wanted, less what asks for clearing. -/
def Shows (view want : Attributes) : Prop :=
  ∀ name wanted, want.get? name = some wanted →
    wanted.same wanted = true ∧ view.get? name = if wanted.isClear then none else some wanted

/-- In such a view only what was left out differs. -/
theorem Shows.differs_eq_clears (h : Shows view want) (name : String) :
    differs want view name = want.clears name := by
  unfold differs Attributes.clears
  cases hwant : want.get? name with
  | none => rfl
  | some wanted =>
      obtain ⟨hself, hview⟩ := h name wanted hwant
      rw [Option.any_some, Option.any_some, hview]
      cases hclear : wanted.isClear with
      | true => simp [sameOption]
      | false => simp [sameOption, hself]

/-- In such a view a name needs no change exactly where it is not missed. -/
theorem Shows.changesAt_eq_nil_iff (h : Shows view want) :
    schema.changesAt want view name = .ok [] ↔ schema.Unmissed want name := by
  by_cases hsingle : ∀ partner, schema.comparison name ≠ .paired partner
  · have hlone : (schema.comparison name).partner? = none := by
      cases hcomparison : schema.comparison name with
      | paired partner => exact absurd hcomparison (hsingle partner)
      | exact | unorderedList | optionalText | immutable | keywordOrSet => rfl
    rw [Schema.changesAt_eq_nil_iff hsingle]
    refine forall_congr' fun wanted => forall_congr' fun hwanted => ?_
    obtain ⟨hself, hview⟩ := h name wanted hwanted
    rw [hview, hlone]
    cases hclear : wanted.isClear with
    | true => simpa using Comparison.emits_missing_iff _ hclear
    | false => simpa using Comparison.emits_self _ hself
  · obtain ⟨partner, hpaired⟩ : ∃ partner, schema.comparison name = .paired partner := by
      simpa using hsingle
    rw [changesAt_of_paired hpaired, h.differs_eq_clears, h.differs_eq_clears, Unmissed, hpaired]
    cases hwant : want.get? name with
    | none => simp
    | some wanted =>
        -- what is sent together minds either value that was left out
        have hself : want.clears name = wanted.isClear := by
          rw [Attributes.clears, hwant, Option.any_some]
        rw [hself]
        cases hclear : wanted.isClear <;> cases hother : want.clears partner <;>
          simp [Comparison.minds, Comparison.partner?, hclear, hother]

/-- In such a view nothing has to be altered that cannot be changed. -/
theorem Shows.not_altersFixed (h : Shows view want) : ¬ schema.AltersFixed want view name := by
  rintro ⟨-, wanted, current, hwanted, hcurrent, hdiffers⟩
  obtain ⟨hself, hview⟩ := h name wanted hwanted
  rw [hview] at hcurrent
  obtain ⟨-, hsame⟩ := Option.ite_none_left_eq_some.mp hcurrent
  obtain rfl := Option.some.inj hsame
  rw [hself] at hdiffers
  cases hdiffers

/-- Such a view has a change set, which is empty exactly where nothing is
missed. -/
theorem Shows.exists_changes (h : Shows view want) (updatable : List String) :
    ∃ changes, schema.changes updatable [] want view = .ok changes ∧
      (changes = .empty ↔ ∀ name ∈ updatable, schema.Unmissed want name) := by
  have hrespected : ∀ dependency ∈ ([] : List Dependency),
      dependency.check want view = .ok () := List.forall_mem_nil _
  have hcases : (∃ name ∈ updatable, schema.AltersFixed want view name ∧ _) ∨ _ :=
    changes_eq_error_or_ok hrespected
  rcases hcases with ⟨name, -, halters, -⟩ | ⟨-, changes, hchanges⟩
  · exact absurd halters h.not_altersFixed
  · refine ⟨changes, hchanges, ?_⟩
    have hempty : changes = .empty ↔ schema.changes updatable [] want view = .ok .empty := by
      rw [hchanges, Except.ok.injEq]
    rw [hempty, changes_eq_empty_iff]
    constructor
    · intro hsettled name hname
      exact h.changesAt_eq_nil_iff.mp (hsettled.quiet name hname)
    · intro hunmissed
      exact ⟨hrespected, fun name hname => h.changesAt_eq_nil_iff.mpr (hunmissed name hname)⟩

/-- What the schema makes of well-formed parameters is the same as itself. -/
theorem same_self_of_want {params : Attributes} {partition : String} {wanted : Value}
    (hparams : params.WellFormed) (h : schema.want params partition = .ok want)
    (hwanted : want.get? name = some wanted) : wanted.same wanted = true := by
  obtain ⟨field, -, -, given, hgiven, hnormal⟩ := normalized_of_want h hwanted
  by_cases hshape : field.shape = .nested
  · rw [Field.eq_of_normalize_nested hshape hnormal]
    exact (hparams.get? hgiven).same_self
  · exact Value.same_self_of_isFlat
      (Shape.isFlat_of_holds hshape (Field.normalize_holds hnormal))

end Schema

namespace Pass

variable {pass : Pass} {params want creation : Attributes}

/-- What a creation sends of its own stands for no other attribute, so the view
of the created resource shows the creation. -/
theorem get?_read_unreshaped (h : pass.kind.Unreshaped)
    (hcreation : pass.kind.creation want = .ok creation) {name : String}
    (hname : name ∈ pass.kind.schema.names) (hfree : pass.kind.reserves name = false) :
    (pass.kind.read (pass.creationBody creation)).get? name =
      (creation.get? name).map (pass.kind.schema.coerced name) := by
  have hother : ∀ known, pass.kind.reserves known = true →
      pass.kind.schema.aliases.toLogical known ≠ name := by
    intro known hknown
    have hunused : known ∉ pass.kind.schema.wires := fun hwire => by
      rw [h.unreserved known hwire] at hknown
      cases hknown
    rw [Schema.toLogical_of_not_mem hunused]
    rintro rfl
    rw [hfree] at hknown
    cases hknown
  have hflags : ∀ known ∈ pass.flagsCreated.names,
      pass.kind.schema.aliases.toLogical known ≠ name := by
    intro known hknown
    rcases isFlags_flagsCreated pass with hempty | ⟨flags, hpair, htarget⟩
    · rw [hempty] at hknown
      cases hknown
    · have hflag := FlagPair.mem_names_of_forTarget htarget hknown
      exact hother known (by simpa [ResourceKind.reserves, hpair] using Or.inr hflag)
  have hnamed : (pass.kind.schema.ofWire
      (Attributes.empty.insert "name" (.text pass.key.name))).get? name = none := by
    rw [Schema.get?_ofWire]
    simp [Attributes.insert, Attributes.empty, Entries.put, Entries.latest,
      Schema.logicalEntry_eq, hother "name" rfl]
  have hcarries : pass.kind.schema.Carries (pass.kind.schema.toWire creation) creation :=
    Schema.carries_toWire (ResourceKind.distinct_of_creation hcreation) fun other hmem =>
      Schema.returns_of_distinct h.names h.wires
        (ResourceKind.names_of_creation hcreation other hmem)
  have hreturns := Schema.returns_of_distinct h.names h.wires hname
  rw [ResourceKind.read, h.reads, id, creationBody_eq, Schema.get?_ofWire_update_of_ne hflags,
    ResourceKind.write, h.writes, id, hcarries.get?_ofWire_update _ hreturns, hnamed]
  -- one entry alone shadows nothing
  cases creation.get? name with
  | none => rfl
  | some value =>
      have hclean : pass.kind.schema.shadowed (pass.kind.schema.aliases.toWire name)
          (Attributes.empty.insert "name" (.text pass.key.name)).entries = false := by
        simp [Attributes.insert, Attributes.empty, Entries.put, Schema.shadowed]
      simp [hclean]

/-- The view of a created resource shows what is wanted, less what asks for
clearing. -/
theorem shows_created (h : pass.kind.Unreshaped) (hparams : params.WellFormed)
    (hfree : ∀ name ∈ params.names, pass.kind.reserves name = false)
    (hwant : pass.kind.want pass.key.partition params pass.target = .ok want)
    (hcreation : pass.kind.creation want = .ok creation) :
    Schema.Shows (pass.kind.read (pass.creationBody creation)) want := by
  intro name wanted hwanted
  have hnormal := (ResourceKind.accepts_of_want hwant).normal
  refine ⟨Schema.same_self_of_want hparams hnormal hwanted, ?_⟩
  obtain ⟨field, hdeclared, hholds⟩ := Schema.holds_of_want h.names hnormal hwanted
  have hname := Schema.mem_names_of_field? hdeclared
  obtain ⟨-, -, -, given, hgiven, -⟩ := Schema.normalized_of_want hnormal hwanted
  rw [get?_read_unreshaped h hcreation hname
      (hfree name (Attributes.mem_names_iff.mpr ⟨given, hgiven⟩)),
    ResourceKind.get?_of_creation hcreation, if_pos hname, ResourceKind.get?_filled, hwanted,
    Option.some_or, Value.filter_not_isClear]
  cases hclear : wanted.isClear with
  | true => rfl
  | false =>
      rw [if_neg Bool.false_ne_true, Option.map_some, Schema.coerced_of_holds hdeclared hholds]

/-- Where a pass creates a resource and the device stores what it is sent, the
resource has a change set, and it is empty exactly when nothing that was left
out is missed. -/
theorem created_unchanged_iff {σ : Type} {device : Device σ} {state : σ} {body : Attributes}
    (h : pass.kind.Unreshaped) (hparams : params.WellFormed)
    (hfree : ∀ name ∈ params.names, pass.kind.reserves name = false)
    (hcreated : .create pass.key body ∈ ((pass.reconcile params).run device state).requests) :
    ∃ want changes, pass.kind.want pass.key.partition params pass.target = .ok want ∧
      pass.kind.changes want (pass.kind.read body) = .ok changes ∧
        (changes = .empty ↔
          ∀ name ∈ pass.kind.updatable, pass.kind.schema.Unmissed want name) := by
  obtain ⟨want, creation, hwant, hcreation, rfl⟩ := creation_of_request hcreated
  have hshows := shows_created h hparams hfree hwant hcreation
  obtain ⟨changes, hchanges, hempty⟩ := hshows.exists_changes pass.kind.updatable
  rw [← h.independent] at hchanges
  exact ⟨want, changes, hwant, hchanges, hempty⟩

/-! ## A sample -/

/-- A kind with one setting, which may be switched off by name. -/
def modal : ResourceKind where
  name := "test/kind"
  schema := ⟨[Field.choice "mode" ["napt", "none"]]⟩

/-- A pass over one resource of the kind. -/
def modalPass : Pass := ⟨modal, ⟨"test/kind", "Common", "r1"⟩, .present, false, 0⟩

theorem unreshaped_modal : modal.Unreshaped where
  reads := rfl
  writes := rfl
  independent := rfl
  names := by decide
  wires := by decide
  unreserved := by decide

/-- A mode that is switched on is stored as it is wanted. -/
theorem switchedOn_unchanged :
    ∃ body, .create modalPass.key body ∈
        ((modalPass.reconcile ⟨[("mode", .text "napt")]⟩).run Device.offline default).requests ∧
      modal.changes ⟨[("mode", .text "napt")]⟩ (modal.read body) = .ok .empty := by
  have hcreated : .create modalPass.key ⟨[("name", .text "r1"), ("mode", .text "napt")]⟩ ∈
      ((modalPass.reconcile ⟨[("mode", .text "napt")]⟩).run Device.offline default).requests :=
    List.mem_cons_of_mem _ List.mem_cons_self
  obtain ⟨want, changes, hwant, hchanges, hunchanged⟩ :=
    created_unchanged_iff unreshaped_modal (by decide) (by decide) hcreated
  obtain rfl : (⟨[("mode", .text "napt")]⟩ : Attributes) = want :=
    Except.ok.inj (Eq.trans rfl hwant)
  obtain rfl := hunchanged.mpr (by decide)
  exact ⟨_, hcreated, hchanges⟩

/-- A mode that is switched off is left out of the creation, and missed
afterwards. -/
theorem switchedOff_changed :
    modal.Unreshaped ∧
      modal.want "Common" ⟨[("mode", .text "none")]⟩ .present =
        .ok ⟨[("mode", .text "none")]⟩ ∧
      ∃ body, .create modalPass.key body ∈
          ((modalPass.reconcile ⟨[("mode", .text "none")]⟩).run Device.offline default).requests ∧
        modal.changes ⟨[("mode", .text "none")]⟩ (modal.read body) =
          .ok ⟨[("mode", .text "none")]⟩ :=
  ⟨unreshaped_modal, rfl, ⟨[("name", .text "r1")]⟩,
    List.mem_cons_of_mem _ List.mem_cons_self, rfl⟩

end Pass
end DesiredState
