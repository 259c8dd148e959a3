import DesiredState.Proofs.Schema.Dependency
import DesiredState.Proofs.Schema.Exactness

/-!
# Dependents left without what they need

A dependency between two attributes dangles where the dependent one is set and
the required one is not.  Its three refusals keep a change set from bringing
this about, with one gap: a caller who clears the required attribute while
setting the dependent one is let through, since the first refusal looks only at
callers without an opinion on the dependent attribute and the second one looks
at what is held and not at what is left.  `Schema.dangles_update_iff` says that
this is the only gap.

The two attributes are optional texts, as references to other resources are;
what else the schema declares, and how it pairs its names, does not matter.
-/

namespace DesiredState

/-- The dependent attribute is set and the required one is not. -/
def Dependency.Dangles (dependency : Dependency) (held : Attributes) : Prop :=
  held.isSet dependency.dependent = true ∧ held.isSet dependency.required = false

instance (dependency : Dependency) (held : Attributes) :
    Decidable (dependency.Dangles held) :=
  inferInstanceAs (Decidable (_ ∧ _))

namespace Schema

variable {schema : Schema} {updatable : List String} {dependencies : List Dependency}
  {dependency : Dependency} {want held changes : Attributes}

/-- Once a change set is stored, a name that is not wanted is as it was. -/
theorem get?_update_of_unwanted {name : String} (hunwanted : want.get? name = none)
    (h : schema.changes updatable dependencies want held = .ok changes) :
    (held.update changes).get? name = held.get? name := by
  rw [Attributes.get?_update held (distinct_of_changes h)]
  cases hvalue : changes.get? name with
  | none => rw [Option.none_or]
  | some value =>
      obtain ⟨judged, -, entries, hentries, hmem⟩ := source_of_changes h hvalue
      rw [Option.some_or]
      -- whatever brought the name along, it is sent with what is there
      rcases mem_changesAt_cases hentries hmem with ⟨rfl, hsent⟩ | ⟨-, -, hsent⟩
      · exact (held_of_sent hunwanted hsent).symm
      · rw [hunwanted, Option.none_or] at hsent
        exact hsent.symm

/-- Once a change set is stored, an optional text is set as it is wanted. -/
theorem isSet_update_of_wanted {name : String} {wanted : Value}
    (hcomparison : schema.comparison name = .optionalText) (hname : name ∈ updatable)
    (hwanted : want.get? name = some wanted)
    (h : schema.changes updatable dependencies want held = .ok changes) :
    (held.update changes).isSet name = !wanted.isClear := by
  have hsingle : ∀ partner, schema.comparison name ≠ .paired partner := by
    rw [hcomparison]
    exact fun _ => nofun
  have hsent : schema.sent want held name = wanted.optionalChange (held.get? name) := by
    rw [sent_of_single hsingle, hcomparison, hwanted, Option.bind_some]
    rfl
  simp only [Attributes.isSet, Attributes.get?_update held (distinct_of_changes h)]
  cases hvalue : changes.get? name with
  | none =>
      rw [Option.none_or]
      -- nothing is sent, so what is there is as set as what is wanted
      have hidle : wanted.optionalChange (held.get? name) = none := by
        obtain ⟨entries, hentries⟩ := judged_of_changes h hname
        rw [← hsent, Option.eq_none_iff_forall_ne_some]
        intro value hemits
        have hadded : (name, value) ∈ entries := by
          simp [changesAt_of_single hsingle hentries, hemits]
        exact Attributes.get?_eq_none_iff.mp hvalue
          (mem_names_of_changesAt h hname hentries hadded)
      exact Value.any_isSet_of_optionalChange hidle
  | some value =>
      rw [Option.some_or, Option.any_some]
      obtain ⟨judged, -, entries, hentries, hmem⟩ := source_of_changes h hvalue
      rcases mem_changesAt_cases hentries hmem with ⟨rfl, hself⟩ | ⟨-, -, hbrought⟩
      · rw [Value.optionalChange_eq_some (hsent.symm.trans hself)]
        cases hclear : wanted.isClear with
        | true => rfl
        | false => simp [hclear]
      · -- a name that is paired with this one brings what is wanted of it
        rw [hwanted, Option.some_or] at hbrought
        rw [Option.some.inj hbrought]

/-- Once a change set is stored, an optional text is set as the caller wants
it, or else as it was before. -/
theorem isSet_update {name : String} (hcomparison : schema.comparison name = .optionalText)
    (hname : name ∈ updatable)
    (h : schema.changes updatable dependencies want held = .ok changes) :
    (held.update changes).isSet name =
      if want.contains name then want.isSet name else held.isSet name := by
  cases hwant : want.get? name with
  | none =>
      rw [if_neg (by simp [Attributes.contains, hwant]), Attributes.isSet,
        get?_update_of_unwanted hwant h, Attributes.isSet]
  | some wanted =>
      rw [if_pos (by simp [Attributes.contains, hwant]),
        isSet_update_of_wanted hcomparison hname hwant h, Attributes.isSet, hwant,
        Option.any_some]

/-- A change set leaves the dependent attribute without the required one
exactly where the caller clears the one and sets the other. -/
theorem dangles_update_iff (hdependency : dependency ∈ dependencies)
    (hrequired : schema.comparison dependency.required = .optionalText)
    (hdependent : schema.comparison dependency.dependent = .optionalText)
    (hrequiredUpdatable : dependency.required ∈ updatable)
    (hdependentUpdatable : dependency.dependent ∈ updatable)
    (hheld : ¬ dependency.Dangles held)
    (h : schema.changes updatable dependencies want held = .ok changes) :
    dependency.Dangles (held.update changes) ↔
      want.clears dependency.required = true ∧ want.isSet dependency.dependent = true := by
  obtain ⟨hkept, hneeds, -⟩ :=
    Dependency.check_eq_ok_iff.mp (respected_of_changes h dependency hdependency)
  rw [Dependency.Dangles, isSet_update hrequired hrequiredUpdatable h,
    isSet_update hdependent hdependentUpdatable h]
  constructor
  · rintro ⟨hset, hunset⟩
    by_cases hwants : want.contains dependency.dependent = true
    · rw [if_pos hwants] at hset
      refine ⟨?_, hset⟩
      -- the required one is not held, or the second refusal would not apply
      split at hunset
      · rename_i hclears
        rw [Attributes.clears_eq_not_isSet hclears, hunset]
        rfl
      · rename_i hsilent
        have hnever : want.isSet dependency.required = false := by
          rw [Bool.eq_false_iff]
          exact fun hrequires => hsilent (Attributes.contains_of_isSet hrequires)
        exact absurd ⟨hset, hnever, hunset⟩ hneeds
    · rw [if_neg hwants] at hset
      -- the dependent one is left alone, so the first refusal guards the other
      split at hunset
      · rename_i hclears
        have hclear : want.clears dependency.required = true := by
          rw [Attributes.clears_eq_not_isSet hclears, hunset]
          rfl
        exact absurd ⟨hclear, hset, Bool.eq_false_iff.mpr hwants⟩ hkept
      · exact absurd ⟨hset, hunset⟩ hheld
  · rintro ⟨hclear, hset⟩
    have hcontains := Attributes.contains_of_clears hclear
    rw [if_pos (Attributes.contains_of_isSet hset), if_pos hcontains]
    refine ⟨hset, ?_⟩
    simpa [hclear] using Attributes.clears_eq_not_isSet hcontains

/-! ## A sample -/

/-- A schema of two references. -/
def chained : Schema := ⟨[Field.reference "pool", Field.reference "forward_to"]⟩

/-- The dependency of the sample: a pool needs something to forward to. -/
def forwarding : Dependency := ⟨"forward_to", "pool", true⟩

/-- What the sample holds. -/
def chainedHeld : Attributes := ⟨[
  ("forward_to", .text "/Common/hsl"), ("pool", .text "/Common/p1")]⟩

/-- Another pool that is to be forwarded to the same place stays reachable. -/
theorem repooled_not_dangles :
    ¬ forwarding.Dangles
      (chainedHeld.update ⟨[("pool", .text "/Common/p2")]⟩) := by
  have hchanges : chained.changes chained.names [forwarding]
      ⟨[("pool", .text "/Common/p2")]⟩ chainedHeld = .ok ⟨[("pool", .text "/Common/p2")]⟩ := rfl
  rw [dangles_update_iff List.mem_cons_self rfl rfl (by decide) (by decide) (by decide) hchanges]
  decide

/-- A pool that is replaced while its forwarding is cleared dangles: no refusal
applies, and what is left breaks the dependency that was respected before. -/
theorem cutOff_dangles :
    ¬ forwarding.Dangles chainedHeld ∧
      ∃ changes, chained.changes chained.names [forwarding]
          ⟨[("forward_to", .text ""), ("pool", .text "/Common/p2")]⟩ chainedHeld = .ok changes ∧
        forwarding.Dangles (chainedHeld.update changes) := by
  refine ⟨by decide, ⟨[("pool", .text "/Common/p2"), ("forward_to", .text "")]⟩, rfl, ?_⟩
  decide

end Schema
end DesiredState
