import DesiredState.Proofs.Catalog.Group.View
import DesiredState.Proofs.Schema.Ordinary

/-!
# Grouped attributes and repetition

After an update a member of a group is quiet unless its group was sent without
it, or unless it was sent as a text that spells a number: the nested map holds
what was sent and nothing else, and such a text is read back as the number.
-/

namespace DesiredState

/-- No normal value of a shape is a text that spells a number. -/
def Shape.Unnumbered : Shape → Prop
  | .choice choices => ∀ content ∈ choices, Text.readInt64 content = none
  | .text | .reference | .keywordOrList _ => False
  | .flag | .toggle | .int _ _ | .list | .referenceList | .nested => True

instance : (shape : Shape) → Decidable shape.Unnumbered
  | .choice choices =>
      inferInstanceAs (Decidable (∀ content ∈ choices, Text.readInt64 content = none))
  | .text | .reference | .keywordOrList _ => inferInstanceAs (Decidable False)
  | .flag | .toggle | .int _ _ | .list | .referenceList | .nested =>
      inferInstanceAs (Decidable True)

namespace Catalog

/-- A text that spells no number stays as it is. -/
theorem numericValue_text {content : String} (h : Text.readInt64 content = none) :
    numericValue (.text content) = .text content := by
  rw [numericValue, h]
  rfl

theorem numericValue_text_iff (content : String) :
    numericValue (.text content) = .text content ↔ Text.readInt64 content = none := by
  constructor
  · intro h
    cases hnumber : Text.readInt64 content with
    | none => rfl
    | some number => simp [numericValue, hnumber] at h
  · exact numericValue_text

/-- Normal values stay as they are where no text spells a number. -/
theorem numericValue_of_holds {shape : Shape} (hshape : shape.Unnumbered) {value : Value}
    (h : shape.Holds value) : numericValue value = value := by
  cases value with
  | text content =>
      refine numericValue_text ?_
      cases shape with
      | toggle =>
          rcases h with rfl | rfl
          · decide
          · decide
      | choice choices => exact hshape content h
      | text => exact hshape.elim
      | reference => exact hshape.elim
      | keywordOrList keywords => exact hshape.elim
      | _ => exact h.elim
  | _ => rfl

namespace Group

/-- When a group is sent, each member that is wanted and not sent with it is
found beside the nested map. -/
def Kept (group : Group) (want base sent : Attributes) : Prop :=
  group.sends sent = true → ∀ member ∈ group.members, sent.contains member.1 = false →
    ∀ wanted, want.get? member.1 = some wanted →
      sameOption (base.get? member.1) (some wanted) = true

instance (group : Group) (want base sent : Attributes) :
    Decidable (group.Kept want base sent) :=
  inferInstanceAs (Decidable (_ → ∀ member ∈ group.members, _ →
    ∀ wanted, want.get? member.1 = some wanted → _))

/-- A member that is sent sends its group. -/
theorem sends_of_contains {group : Group} {sent : Attributes} {logical inner : String}
    (hmember : (logical, inner) ∈ group.members) (h : sent.contains logical = true) :
    group.sends sent = true :=
  List.any_eq_true.mpr ⟨_, hmember, h⟩

variable {group : Group} {schema : Schema} {field : Field} {updatable : List String}
  {dependencies : List Dependency} {want held base changes after : Attributes}
  {logical inner : String}

/-- What a view shows of a member after a list of groups was written over a base:
what was sent of its group if any of it was, and what was stored otherwise. -/
theorem get?_spreadAll_of_written {groups : List Group} {sent view : Attributes}
    (hregular : AllRegular groups) (hgroup : group ∈ groups)
    (hundeclared : schema.field? group.wire = none) (hdistinct : sent.Distinct)
    (hunsent : sent.get? group.wire = none)
    (hview : ∀ name ∈ group.scope, view.get? name =
      (((gatherAll groups sent).get? name).map (schema.coerced name)).or (base.get? name))
    (hmember : (logical, inner) ∈ group.members) :
    (spreadAll groups view).get? logical =
      if group.sends sent then ((sent.get? logical).map numericValue).or (base.get? logical)
      else (spreadAll groups base).get? logical := by
  refine get?_spreadAll_of_gatherAll hregular hgroup hdistinct hunsent ?_ hmember
  intro name hname
  rw [hview name hname]
  rcases List.mem_cons.mp hname with rfl | hlogical
  · cases (gatherAll groups sent).get? group.wire with
    | none => rfl
    | some nested => rw [Option.map_some, Schema.coerced_of_undeclared hundeclared]
  · -- a member is not written under its own name
    have hgroupRegular := hregular.1 group hgroup
    have hne : name ≠ group.wire := fun heq => hgroupRegular.2.2 (heq ▸ hlogical)
    rw [get?_gatherAll_of_mem hregular hgroup hdistinct hname,
      get?_gather hgroupRegular hdistinct, if_neg (fun hboth => hne hboth.1), if_pos hlogical]
    rfl

/-- A name that was not sent is quiet unless its group was sent and does not show
it as it is wanted. -/
theorem quiet_unsent_iff (hordinary : schema.Ordinary want logical field)
    (hexact : field.comparison = .exact) (hpairs : schema.PairsMutually updatable)
    (hname : logical ∈ updatable)
    (hchanges : schema.changes updatable dependencies want held = .ok changes)
    (hunsent : changes.get? logical = none) {shown : Option Value}
    (hafter : after.get? logical =
      if group.sends changes then shown else held.get? logical) :
    schema.changesAt want after logical = .ok [] ↔
      (group.sends changes = true → ∀ wanted, want.get? logical = some wanted →
        sameOption shown (some wanted) = true) := by
  cases hsends : group.sends changes with
  | true =>
      rw [if_pos hsends] at hafter
      rw [Schema.changesAt_eq_nil_iff hordinary.single_comparison,
        Schema.comparison_of_field? hordinary.declared, hexact, hafter]
      simp [Comparison.emits]
  | false =>
      rw [if_neg (by simp [hsends])] at hafter
      simp only [Bool.false_eq_true, false_imp_iff, iff_true]
      exact hordinary.changesAt_of_unsent hpairs hname hchanges hunsent hafter

/-- After an update a member of a group is quiet exactly when it was sent as a
value that is read back or, not sent, is kept. -/
theorem quiet_member_iff (hmember : (logical, inner) ∈ group.members)
    (hordinary : schema.Ordinary want logical field) (hexact : field.comparison = .exact)
    (hpairs : schema.PairsMutually updatable) (hname : logical ∈ updatable)
    (hchanges : schema.changes updatable dependencies want held = .ok changes)
    (hafter : after.get? logical =
      if group.sends changes then
        ((changes.get? logical).map numericValue).or (base.get? logical)
      else held.get? logical) :
    schema.changesAt want after logical = .ok [] ↔
      (∀ value, changes.get? logical = some value → numericValue value = value) ∧
        (group.sends changes = true → changes.contains logical = false →
          ∀ wanted, want.get? logical = some wanted →
            sameOption (base.get? logical) (some wanted) = true) := by
  cases hsent : changes.get? logical with
  | some value =>
      have hcontains : changes.contains logical = true :=
        Attributes.contains_iff.mpr ⟨value, hsent⟩
      rw [if_pos (sends_of_contains hmember hcontains), hsent, Option.map_some,
        Option.some_or] at hafter
      simp only [hcontains, Bool.true_eq_false, false_imp_iff, implies_true, and_true,
        Option.some.injEq, forall_eq']
      exact hordinary.changesAt_sent_iff hpairs hname hchanges hexact hsent hafter
  | none =>
      have hcontains : changes.contains logical = false :=
        Attributes.contains_eq_false_iff.mpr hsent
      rw [hsent, Option.map_none, Option.none_or] at hafter
      simp only [hcontains, reduceCtorEq, false_imp_iff, implies_true, true_and, true_imp_iff]
      exact quiet_unsent_iff hordinary hexact hpairs hname hchanges hsent hafter

end Group
end Catalog
end DesiredState
