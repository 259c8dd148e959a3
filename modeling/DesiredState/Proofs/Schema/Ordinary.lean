import DesiredState.Proofs.ResourceKind
import DesiredState.Proofs.Schema.Change
import DesiredState.Proofs.Schema.Normal
import DesiredState.Proofs.Schema.Stored

/-!
# Ordinary attributes

An ordinary attribute is judged on its own and is stored and shown as it is
sent.  After an update it needs nothing more unless the update was shadowed;
after a creation it needs nothing more unless it was dropped for asking to be
cleared and its comparison does not take a missing value for a cleared one.
The same is followed for the dependencies between two attributes.
-/

namespace DesiredState

/-- Whether a normal value of a shape can ask for clearing. -/
def Shape.clearable : Shape → Bool
  | .text | .reference | .list | .referenceList | .keywordOrList _ => true
  | .choice choices => choices.contains "" || choices.contains "none"
  | .flag | .toggle | .int _ _ | .nested => false

/-- Whether a comparison takes a missing value for a cleared one. -/
def Comparison.forgives : Comparison → Bool
  | .unorderedList | .optionalText => true
  | _ => false

/-- The partner that a comparison judges a name together with. -/
def Comparison.partner? : Comparison → Option String
  | .paired partner => some partner
  | _ => none

namespace Shape

theorem clearable_of_isClear {shape : Shape} {value : Value} (h : shape.Holds value)
    (hclear : value.isClear = true) : shape.clearable = true := by
  cases shape <;> cases value <;> simp_all [Holds, Value.isClear, clearable]
  case toggle.text content =>
    rcases h with rfl | rfl
    · simp at hclear
    · simp at hclear
  case choice.text choices content =>
    rcases hclear with rfl | rfl
    · exact Or.inl h
    · exact Or.inr h

theorem isFlat_of_holds {shape : Shape} (hshape : shape ≠ .nested) {value : Value}
    (h : shape.Holds value) : value.isFlat = true := by
  cases shape <;> cases value <;> simp_all [Holds, Value.isFlat]

end Shape

/-- A field whose comparison goes with the shape of its values. -/
def Field.Consistent (field : Field) : Prop :=
  field.shape ≠ .nested ∧
    (field.comparison = .unorderedList →
      field.shape = .list ∨ field.shape = .referenceList) ∧
    (field.comparison = .optionalText → field.shape = .text ∨ field.shape = .reference)

instance (field : Field) : Decidable field.Consistent :=
  inferInstanceAs (Decidable (_ ∧ _ ∧ _))

namespace Field

/-- What a consistent field sends is normal for its shape. -/
theorem Consistent.holds_sent {field : Field} (h : field.Consistent) {wanted sent : Value}
    {observed : Option Value} (hwanted : field.shape.Holds wanted)
    (hsent : field.comparison.emits wanted observed = some sent) :
    field.shape.Holds sent := by
  obtain ⟨-, hlist, htext⟩ := h
  -- only a cleared list or text is sent as another value, and its shape has it
  cases hcomparison : field.comparison with
  | unorderedList =>
      rw [hcomparison] at hsent
      rw [Value.listChange_eq_some hsent]
      split
      · rcases hlist hcomparison with hshape | hshape
        · simp [hshape, Shape.Holds]
        · simp [hshape, Shape.Holds]
      · exact hwanted
  | optionalText =>
      rw [hcomparison] at hsent
      rw [Value.optionalChange_eq_some hsent]
      split
      · rcases htext hcomparison with hshape | hshape
        · simp [hshape, Shape.Holds]
        · simp [hshape, Shape.Holds]
      · exact hwanted
  | keywordOrSet =>
      rw [hcomparison] at hsent
      rwa [Value.keywordChange_eq_some hsent]
  | exact =>
      rw [hcomparison] at hsent
      rwa [Value.exactChange_eq_some hsent]
  | paired partner =>
      rw [hcomparison] at hsent
      rwa [Value.exactChange_eq_some hsent]
  | immutable =>
      rw [hcomparison] at hsent
      rwa [Value.exactChange_eq_some hsent]

theorem Consistent.same_self {field : Field} (h : field.Consistent) {wanted : Value}
    (hwanted : field.shape.Holds wanted) : wanted.same wanted = true :=
  Value.same_self_of_isFlat (Shape.isFlat_of_holds h.1 hwanted)

end Field

namespace Comparison

/-- Every comparison accepts the wanted value itself. -/
theorem emits_self (comparison : Comparison) {wanted : Value}
    (hself : wanted.same wanted = true) : comparison.emits wanted (some wanted) = none := by
  -- where a value asks for clearing, it is accepted for being clear itself
  cases comparison with
  | unorderedList =>
      by_cases hclear : wanted.elements.isEmpty = true
      · simp [emits, Value.listChange, hclear]
      · simp [emits, Value.listChange, hclear, Value.sameSet_self]
  | optionalText =>
      by_cases hclear : wanted.isClear = true
      · simp [emits, Value.optionalChange, hclear]
      · simp [emits, Value.optionalChange, hclear, sameOption, hself]
  | keywordOrSet => exact Value.keywordChange_self hself
  | exact => simp [emits, sameOption, hself]
  | paired partner => simp [emits, sameOption, hself]
  | immutable => simp [emits, sameOption, hself]

/-- Exactly the wanted value needs no change where sameness decides. -/
theorem emits_exact_iff {wanted : Value} (hflat : wanted.isFlat = true)
    (observed : Option Value) :
    Comparison.exact.emits wanted observed = none ↔ observed = some wanted := by
  rw [← sameOption_iff_of_isFlat hflat]
  simp [emits]

theorem emits_immutable_iff {wanted : Value} (hflat : wanted.isFlat = true)
    (observed : Option Value) :
    Comparison.immutable.emits wanted observed = none ↔ observed = some wanted :=
  emits_exact_iff hflat observed

/-- A missing value is accepted for a cleared one where the comparison forgives,
and only there. -/
theorem emits_none_iff (comparison : Comparison) (hkeyword : comparison ≠ .keywordOrSet)
    {wanted : Value} (hclear : wanted.isClear = true) :
    comparison.emits wanted none = none ↔ comparison.forgives = true := by
  cases comparison with
  | unorderedList =>
      have hempty : wanted.elements.isEmpty = true := by
        cases wanted <;> simp_all [Value.isClear, Value.elements]
      simp [emits, Value.listChange, hempty, forgives]
  | optionalText => simp [emits, Value.optionalChange, hclear, forgives]
  | keywordOrSet => exact absurd rfl hkeyword
  | exact => simp [emits, sameOption, forgives]
  | paired partner => simp [emits, sameOption, forgives]
  | immutable => simp [emits, sameOption, forgives]

end Comparison

namespace Schema

variable {schema : Schema} {updatable : List String} {dependencies : List Dependency}
  {want held after raw changes : Attributes} {name : String} {field : Field}

/-- What the view of a stored resource shows under a name, after some values
were sent to it. -/
def shown (schema : Schema) (raw sent held : Attributes) (name : String) : Option Value :=
  match sent.get? name with
  | some value =>
      if schema.shadowed (schema.aliases.toWire name) raw.entries then
        held.get? name
      else
        some (schema.coerced name value)
  | none => held.get? name

/-- No value that is sent is shadowed. -/
def Unshadowed (schema : Schema) (sent raw : Attributes) : Prop :=
  ∀ name ∈ sent.names, schema.shadowed (schema.aliases.toWire name) raw.entries = false

instance (schema : Schema) (sent raw : Attributes) : Decidable (schema.Unshadowed sent raw) :=
  inferInstanceAs (Decidable (∀ name ∈ sent.names, _ = _))

/-- A name is judged on its own, in a way that goes with its shape, and what is
wanted under it is normal. -/
structure Ordinary (schema : Schema) (want : Attributes) (name : String)
    (field : Field) : Prop where
  /-- The name is declared. -/
  declared : schema.field? name = some field
  /-- The name has no partner. -/
  single : ∀ partner, field.comparison ≠ .paired partner
  /-- The comparison goes with the shape. -/
  consistent : field.Consistent
  /-- Wanted values are normal. -/
  holds : ∀ wanted, want.get? name = some wanted → field.shape.Holds wanted

theorem comparison_of_field? (h : schema.field? name = some field) :
    schema.comparison name = field.comparison := by
  simp [comparison, h]

/-- Coercion leaves a normal value of a declared name alone. -/
theorem coerced_of_holds (h : schema.field? name = some field) {value : Value}
    (hvalue : field.shape.Holds value) : schema.coerced name value = value := by
  simp [coerced, h, Field.coerce_of_holds hvalue]

/-- A pair of names is quiet when both show what is wanted. -/
theorem changesAt_pair_shown_iff {partner : String}
    (hpaired : schema.comparison name = .paired partner)
    (hback : schema.comparison partner = .paired name)
    (hflat : ∀ other ∈ [name, partner], ∀ wanted, want.get? other = some wanted →
      wanted.isFlat = true) :
    (schema.changesAt want held name = .ok [] ∧
        schema.changesAt want held partner = .ok []) ↔
      (∀ wanted, want.get? name = some wanted → held.get? name = some wanted) ∧
        ∀ wanted, want.get? partner = some wanted → held.get? partner = some wanted := by
  rw [changesAt_pair_iff hpaired hback, differs_eq_false_iff, differs_eq_false_iff]
  refine and_congr ?_ ?_
  · exact forall_congr' fun wanted => forall_congr' fun hwanted =>
      sameOption_iff_of_isFlat (hflat name (by simp) wanted hwanted) _
  · exact forall_congr' fun wanted => forall_congr' fun hwanted =>
      sameOption_iff_of_isFlat (hflat partner (by simp) wanted hwanted) _

/-- Pairs are mutual when every declared partner points back. -/
theorem pairsMutually_of_partners (hnames : schema.names.Nodup)
    (h : ∀ field ∈ schema.fields, ∀ partner ∈ field.comparison.partner?,
      partner ∈ schema.names ∧ schema.comparison partner = .paired field.name) :
    schema.PairsMutually schema.names := by
  intro name hname partner hpaired
  obtain ⟨field, hfield, rfl⟩ := List.mem_map.mp hname
  rw [comparison_of_field? (field?_of_mem hnames hfield)] at hpaired
  exact h field hfield partner (by simp [hpaired, Comparison.partner?])

/-- A declared field that is consistent and has no partner is ordinary in every
want map. -/
theorem ordinary_of_want {params : Attributes} {partition : String}
    (hnames : schema.names.Nodup) (hwant : schema.want params partition = .ok want)
    (hfield : field ∈ schema.fields) (hsingle : field.comparison.partner? = none)
    (hconsistent : field.Consistent) : schema.Ordinary want field.name field where
  declared := field?_of_mem hnames hfield
  single := by
    intro partner hpaired
    simp [hpaired, Comparison.partner?] at hsingle
  consistent := hconsistent
  holds := by
    intro wanted hwanted
    obtain ⟨other, hother, hholds⟩ := holds_of_want hnames hwant hwanted
    obtain rfl := Option.some.inj (hother.symm.trans (field?_of_mem hnames hfield))
    exact hholds

theorem Ordinary.single_comparison (h : schema.Ordinary want name field) :
    ∀ partner, schema.comparison name ≠ .paired partner := by
  rw [comparison_of_field? h.declared]
  exact h.single

/-- Only a shape that has such values can be wanted cleared. -/
theorem Ordinary.clearable_of_clears (h : schema.Ordinary want name field)
    (hclears : want.clears name = true) : field.shape.clearable = true := by
  obtain ⟨wanted, hwanted, hclear⟩ := (Option.any_eq_true _ _).mp hclears
  exact Shape.clearable_of_isClear (h.holds wanted hwanted) hclear

/-- What a change set sends under an ordinary name. -/
theorem Ordinary.get?_changes (h : schema.Ordinary want name field)
    (hpairs : schema.PairsMutually updatable) (hname : name ∈ updatable)
    (hchanges : schema.changes updatable dependencies want held = .ok changes) :
    changes.get? name = (want.get? name).bind fun wanted =>
      field.comparison.emits wanted (held.get? name) := by
  rw [get?_of_changes hpairs hchanges, if_pos hname, sent_of_single h.single_comparison,
    comparison_of_field? h.declared]

section Updates

variable {value : Value} (h : schema.Ordinary want name field)
  (hpairs : schema.PairsMutually updatable) (hname : name ∈ updatable)
  (hchanges : schema.changes updatable dependencies want held = .ok changes)

include h hpairs hname hchanges

/-- What is sent is the answer of the comparison to a wanted value. -/
theorem Ordinary.emits_of_sent (hsent : changes.get? name = some value) :
    ∃ wanted, want.get? name = some wanted ∧
      field.comparison.emits wanted (held.get? name) = some value := by
  rw [h.get?_changes hpairs hname hchanges] at hsent
  exact Option.bind_eq_some_iff.mp hsent

theorem Ordinary.holds_of_sent (hsent : changes.get? name = some value) :
    field.shape.Holds value := by
  obtain ⟨wanted, hwanted, hemits⟩ := h.emits_of_sent hpairs hname hchanges hsent
  exact h.consistent.holds_sent (h.holds wanted hwanted) hemits

theorem Ordinary.coerced_of_sent (hsent : changes.get? name = some value) :
    schema.coerced name value = value :=
  coerced_of_holds h.declared (h.holds_of_sent hpairs hname hchanges hsent)

/-- A name that shows what was sent needs nothing more. -/
theorem Ordinary.changesAt_of_sent (hsent : changes.get? name = some value)
    (hafter : after.get? name = some value) :
    schema.changesAt want after name = .ok [] := by
  obtain ⟨wanted, hwanted, hemits⟩ := h.emits_of_sent hpairs hname hchanges hsent
  rw [changesAt_eq_nil_iff h.single_comparison, comparison_of_field? h.declared, hafter]
  intro other hother
  obtain rfl := Option.some.inj (hwanted.symm.trans hother)
  exact Comparison.emits_sent _ (h.consistent.same_self (h.holds wanted hwanted)) hemits

/-- A name that nothing was sent for needs nothing as long as it is kept. -/
theorem Ordinary.changesAt_of_unsent (hunsent : changes.get? name = none)
    (hafter : after.get? name = held.get? name) :
    schema.changesAt want after name = .ok [] := by
  rw [h.get?_changes hpairs hname hchanges] at hunsent
  rw [changesAt_eq_nil_iff h.single_comparison, comparison_of_field? h.declared, hafter]
  intro wanted hwanted
  rwa [hwanted] at hunsent

/-- A name that something was sent for needs it again if it is as before. -/
theorem Ordinary.changesAt_ne_of_kept (hsent : changes.get? name = some value)
    (hafter : after.get? name = held.get? name) :
    schema.changesAt want after name ≠ .ok [] := by
  obtain ⟨wanted, hwanted, hemits⟩ := h.emits_of_sent hpairs hname hchanges hsent
  rw [ne_eq, changesAt_eq_nil_iff h.single_comparison, comparison_of_field? h.declared,
    hafter]
  intro hquiet
  rw [hquiet wanted hwanted] at hemits
  cases hemits

/-- Where sameness decides, a name that something was sent for is quiet exactly
when that is what is shown. -/
theorem Ordinary.changesAt_sent_iff (hexact : field.comparison = .exact)
    (hsent : changes.get? name = some value) {shown : Value}
    (hafter : after.get? name = some shown) :
    schema.changesAt want after name = .ok [] ↔ shown = value := by
  obtain ⟨wanted, hwanted, hemits⟩ := h.emits_of_sent hpairs hname hchanges hsent
  have hflat := Shape.isFlat_of_holds h.consistent.1 (h.holds wanted hwanted)
  rw [hexact] at hemits
  obtain rfl := Value.exactChange_eq_some hemits
  rw [changesAt_eq_nil_iff h.single_comparison, comparison_of_field? h.declared, hexact,
    hafter, hwanted]
  simp only [Option.some.injEq, forall_eq']
  exact (Comparison.emits_exact_iff hflat _).trans Option.some_inj

/-- After an update an ordinary name needs nothing more, unless what was sent
under it is shadowed. -/
theorem Ordinary.changesAt_shown_iff
    (hshown : after.get? name = schema.shown raw changes held name) :
    schema.changesAt want after name = .ok [] ↔
      (name ∈ changes.names →
        schema.shadowed (schema.aliases.toWire name) raw.entries = false) := by
  rw [shown] at hshown
  cases hsent : changes.get? name with
  | none =>
      rw [hsent] at hshown
      have hidle : name ∉ changes.names := Attributes.get?_eq_none_iff.mp hsent
      exact iff_of_true (h.changesAt_of_unsent hpairs hname hchanges hsent hshown)
        fun hmem => absurd hmem hidle
  | some value =>
      have hmem : name ∈ changes.names := Attributes.mem_names_iff.mpr ⟨value, hsent⟩
      simp only [hsent, h.coerced_of_sent hpairs hname hchanges hsent] at hshown
      cases hshadow : schema.shadowed (schema.aliases.toWire name) raw.entries with
      | true =>
          -- the view still shows the old value, which asked for a change
          refine iff_of_false ?_ fun hclean => by cases hclean hmem
          exact h.changesAt_ne_of_kept hpairs hname hchanges hsent (by simpa [hshadow] using hshown)
      | false =>
          refine iff_of_true ?_ fun _ => rfl
          exact h.changesAt_of_sent hpairs hname hchanges hsent (by simpa [hshadow] using hshown)

end Updates

/-- After a creation an ordinary name needs nothing more, unless it was dropped
for asking to be cleared and the comparison minds. -/
theorem Ordinary.changesAt_created_iff (h : schema.Ordinary want name field)
    (hkeyword : field.comparison ≠ .keywordOrSet)
    (hafter : ∀ wanted, want.get? name = some wanted → after.get? name =
      if wanted.isClear then none else some (schema.coerced name wanted)) :
    schema.changesAt want after name = .ok [] ↔
      (want.clears name = true → field.comparison.forgives = true) := by
  rw [changesAt_eq_nil_iff h.single_comparison, comparison_of_field? h.declared,
    Attributes.clears]
  cases hwant : want.get? name with
  | none => simp
  | some wanted =>
      have hnormal := h.holds wanted hwant
      simp only [Option.some.injEq, forall_eq', Option.any_some, hafter wanted hwant]
      cases hclear : wanted.isClear with
      -- a cleared value was dropped, so none is found
      | true => simpa using Comparison.emits_none_iff _ hkeyword hclear
      | false =>
          rw [coerced_of_holds h.declared hnormal]
          simpa using Comparison.emits_self _ (h.consistent.same_self hnormal)

/-- The same where a view shows what was created as it was wanted. -/
theorem Ordinary.changesAt_dropped_iff (h : schema.Ordinary want name field)
    (hkeyword : field.comparison ≠ .keywordOrSet)
    (hafter : after.get? name = (want.get? name).filter fun value => !value.isClear) :
    schema.changesAt want after name = .ok [] ↔
      (want.clears name = true → field.comparison.forgives = true) := by
  refine h.changesAt_created_iff hkeyword fun wanted hwanted => ?_
  rw [hafter, hwanted, Value.filter_not_isClear,
    coerced_of_holds h.declared (h.holds wanted hwanted)]

end Schema
end DesiredState
