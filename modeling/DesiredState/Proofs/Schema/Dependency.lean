import DesiredState.Proofs.Schema.Ordinary

/-!
# Dependencies on repetition

What a dependency between two attributes says once the first pass has stored
what it sent.  After a creation the dependent attribute still needs the
required one; after an update it is refused only where the caller clears the
required attribute and sets the dependent one.
-/

namespace DesiredState

namespace Value

/-- An optional text that needs no change is set exactly when it is wanted to
be. -/
theorem any_isSet_of_optionalChange {wanted : Value} {observed : Option Value}
    (h : wanted.optionalChange observed = none) :
    (observed.any fun value => !value.isClear) = !wanted.isClear := by
  unfold optionalChange at h
  split at h
  · rename_i hclear
    cases observed with
    | none => simp [hclear]
    | some value =>
        cases hvalue : value.isClear with
        | true => simp [hvalue, hclear]
        | false => simp [hvalue] at h
  · split at h
    · rename_i hsame
      cases observed with
      | none => cases hsame
      | some value => rw [Option.any_some, isClear_of_same hsame]
    · cases h

end Value

namespace Attributes

variable {set : Attributes} {name : String}

theorem contains_of_isSet (h : set.isSet name = true) : set.contains name = true := by
  obtain ⟨value, hvalue, -⟩ := (Option.any_eq_true _ _).mp h
  exact contains_iff.mpr ⟨value, hvalue⟩

theorem contains_of_clears (h : set.clears name = true) : set.contains name = true := by
  obtain ⟨value, hvalue, -⟩ := (Option.any_eq_true _ _).mp h
  exact contains_iff.mpr ⟨value, hvalue⟩

/-- What is there is either set or asks for clearing. -/
theorem clears_eq_not_isSet (h : set.contains name = true) :
    set.clears name = !set.isSet name := by
  obtain ⟨value, hvalue⟩ := contains_iff.mp h
  simp [clears, isSet, hvalue]

end Attributes

namespace Dependency

variable {dependency : Dependency} {want held after : Attributes}

/-- A dependency is respected when none of its three refusals applies. -/
theorem check_eq_ok_iff :
    dependency.check want held = .ok () ↔
      ¬(want.clears dependency.required = true ∧ held.isSet dependency.dependent = true ∧
        want.contains dependency.dependent = false) ∧
      ¬(want.isSet dependency.dependent = true ∧
        want.isSet dependency.required = false ∧
          held.isSet dependency.required = false) ∧
      ¬(dependency.bothWays = true ∧ want.clears dependency.dependent = true ∧
        held.isSet dependency.dependent = true ∧ held.isSet dependency.required = true ∧
          want.contains dependency.required = false) := by
  simp only [check, removalRefused]
  split
  · simp_all
  · split
    · simp_all
    · split
      · simp_all
      · simp_all

/-- After a creation a dependency is respected exactly when the required
attribute is set with the dependent one. -/
theorem check_after_creation_iff
    (hrequired : after.isSet dependency.required = want.isSet dependency.required)
    (hdependent : after.isSet dependency.dependent = want.isSet dependency.dependent) :
    dependency.check want after = .ok () ↔
      (want.isSet dependency.dependent = true → want.isSet dependency.required = true) := by
  rw [check_eq_ok_iff, hrequired, hdependent]
  -- what asks for clearing is not set, so the third refusal cannot apply
  have hneither : ∀ name, want.clears name = true → want.isSet name = false := by
    intro name hclears
    simpa [hclears] using
      Attributes.clears_eq_not_isSet (Attributes.contains_of_clears hclears)
  constructor
  · rintro ⟨-, hneeds, -⟩ hset
    cases hrequired : want.isSet dependency.required with
    | true => rfl
    | false => exact absurd ⟨hset, hrequired, hrequired⟩ hneeds
  · intro hneeds
    refine ⟨?_, ?_, ?_⟩
    · rintro ⟨-, hset, habsent⟩
      simp [Attributes.contains_of_isSet hset] at habsent
    · rintro ⟨hset, hunset, -⟩
      simp [hneeds hset] at hunset
    · rintro ⟨-, hclears, hset, -⟩
      simp [hneither _ hclears] at hset

/-- After an update that respected a dependency, it is respected again unless
the caller clears the required attribute and sets the dependent one. -/
theorem check_after_update_iff (hcheck : dependency.check want held = .ok ())
    (hrequired : after.isSet dependency.required =
      if want.contains dependency.required then want.isSet dependency.required
      else held.isSet dependency.required)
    (hdependent : after.isSet dependency.dependent =
      if want.contains dependency.dependent then want.isSet dependency.dependent
      else held.isSet dependency.dependent) :
    dependency.check want after = .ok () ↔
      ¬(want.clears dependency.required = true ∧
        want.isSet dependency.dependent = true) := by
  obtain ⟨hkept, hneeds, -⟩ := check_eq_ok_iff.mp hcheck
  rw [check_eq_ok_iff, hrequired, hdependent]
  have hclears : ∀ name, want.contains name = true →
      want.clears name = !want.isSet name :=
    fun name hname => Attributes.clears_eq_not_isSet hname
  -- each refusal that does not apply to what is held applies afterwards only
  -- where the caller clears the one attribute and sets the other
  constructor
  · rintro ⟨-, hagain, -⟩ ⟨hclear, hset⟩
    have hcontains := Attributes.contains_of_clears hclear
    have hunset : want.isSet dependency.required = false := by
      simpa [hclear] using hclears _ hcontains
    exact hagain ⟨hset, hunset, by rw [if_pos hcontains, hunset]⟩
  · intro hboth
    refine ⟨?_, ?_, ?_⟩
    · rintro ⟨hclear, hset, habsent⟩
      rw [if_neg (by simp [habsent])] at hset
      exact hkept ⟨hclear, hset, habsent⟩
    · rintro ⟨hset, hunset, hlost⟩
      split at hlost
      · rename_i hcontains
        exact hboth ⟨by simp [hclears _ hcontains, hunset], hset⟩
      · exact hneeds ⟨hset, hunset, hlost⟩
    · rintro ⟨-, hclear, hset, -⟩
      have hcontains := Attributes.contains_of_clears hclear
      rw [if_pos hcontains] at hset
      simp [hclears _ hcontains, hset] at hclear

end Dependency

namespace Schema

variable {schema : Schema} {updatable : List String} {dependencies : List Dependency}
  {want held after raw changes : Attributes} {name : String} {field : Field}

/-- After an update an optional text is set as the caller wants it, or else as
it was before. -/
theorem Ordinary.isSet_shown (h : schema.Ordinary want name field)
    (hcomparison : field.comparison = .optionalText)
    (hpairs : schema.PairsMutually updatable) (hname : name ∈ updatable)
    (hchanges : schema.changes updatable dependencies want held = .ok changes)
    (hunshadowed : schema.Unshadowed changes raw)
    (hshown : after.get? name = schema.shown raw changes held name) :
    after.isSet name = if want.contains name then want.isSet name else held.isSet name := by
  have hsent := h.get?_changes hpairs hname hchanges
  rw [hcomparison] at hsent
  simp only [Attributes.isSet, hshown, shown]
  -- where nothing is sent the old value is as set as the wanted one
  cases hvalue : changes.get? name with
  | none =>
      rw [hvalue] at hsent
      cases hwant : want.get? name with
      | none => simp [Attributes.contains, hwant]
      | some wanted =>
          have hidle : wanted.optionalChange (held.get? name) = none := by
            simpa [hwant, Comparison.emits] using hsent.symm
          simp only [Attributes.contains, hwant, Option.isSome_some, if_true,
            Option.any_some]
          exact Value.any_isSet_of_optionalChange hidle
  | some value =>
      have hmem : name ∈ changes.names := Attributes.mem_names_iff.mpr ⟨value, hvalue⟩
      rw [hvalue] at hsent
      obtain ⟨wanted, hwanted, hemits⟩ := Option.bind_eq_some_iff.mp hsent.symm
      have hnormal : field.shape.Holds value :=
        h.consistent.holds_sent (h.holds wanted hwanted) (hcomparison ▸ hemits)
      simp only [hunshadowed name hmem, Bool.false_eq_true, if_false,
        coerced_of_holds h.declared hnormal, Attributes.contains, hwanted,
        Option.isSome_some, if_true, Option.any_some]
      rw [Value.optionalChange_eq_some hemits]
      cases hclear : wanted.isClear with
      | true => rfl
      | false => simp [hclear]

end Schema
end DesiredState
