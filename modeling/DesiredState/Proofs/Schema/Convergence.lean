import DesiredState.Proofs.Schema.Ordinary
import DesiredState.Proofs.WellFormed

/-!
# One change set is enough

A change set that is stored over what is there leaves nothing to change, for
every schema whose pairs are declared from both sides.  A name on its own is
then accepted by its comparison, whatever value was sent for it; the two names
of a pair hold what is wanted of them, or what they held before.

Nothing is said here about a device that stores a change set in another form
than it was computed in: that is a matter of each kind of resource.
-/

namespace DesiredState
namespace Schema

variable {schema : Schema} {updatable : List String} {dependencies : List Dependency}
  {want held changes : Attributes}

/-- Once the changes are stored, the comparison of a name on its own accepts
what is there. -/
theorem changesAt_update_of_single (hpairs : schema.PairsMutually updatable)
    (hwant : want.WellFormed)
    (h : schema.changes updatable dependencies want held = .ok changes) {name : String}
    (hname : name ∈ updatable)
    (hsingle : ∀ partner, schema.comparison name ≠ .paired partner) :
    schema.changesAt want (held.update changes) name = .ok [] := by
  rw [changesAt_eq_nil_iff hsingle]
  intro wanted hwanted
  have hsent := get?_of_changes hpairs h name
  rw [if_pos hname, sent_of_single hsingle, hwanted, Option.bind_some] at hsent
  rw [Attributes.get?_update held (distinct_of_changes h), hsent]
  cases hemits : (schema.comparison name).emits wanted (held.get? name) with
  | none => rwa [Option.none_or]
  | some value =>
      rw [Option.some_or]
      exact Comparison.emits_sent _ (hwant.get? hwanted).same_self hemits

/-- Once the changes are stored, a name in a pair does not differ. -/
theorem differs_update_of_paired (hpairs : schema.PairsMutually updatable)
    (hwant : want.WellFormed)
    (h : schema.changes updatable dependencies want held = .ok changes)
    {name partner : String} (hname : name ∈ updatable)
    (hpaired : schema.comparison name = .paired partner) :
    differs want (held.update changes) name = false := by
  rw [differs_eq_false_iff]
  intro wanted hwanted
  have hsent := get?_of_changes hpairs h name
  rw [if_pos hname, sent_of_paired hpaired, hwanted, Option.some_or] at hsent
  rw [Attributes.get?_update held (distinct_of_changes h), hsent]
  split
  · exact (hwant.get? hwanted).same_self
  · rename_i hquiet
    rw [Option.none_or]
    have hkept : differs want held name = false := by
      cases hdiffers : differs want held name with
      | false => rfl
      | true => simp [hdiffers] at hquiet
    exact differs_eq_false_iff.mp hkept wanted hwanted

/-- Once the changes are stored, nothing is left to change. -/
theorem changes_update_eq_empty (hpairs : schema.PairsMutually updatable)
    (hwant : want.WellFormed)
    (h : schema.changes updatable [] want held = .ok changes) :
    schema.changes updatable [] want (held.update changes) = .ok .empty := by
  have hsettled : schema.Settled updatable [] want (held.update changes) := by
    refine ⟨List.forall_mem_nil _, fun name hname => ?_⟩
    by_cases hsingle : ∀ partner, schema.comparison name ≠ .paired partner
    · exact changesAt_update_of_single hpairs hwant h hname hsingle
    · obtain ⟨partner, hpaired⟩ : ∃ partner, schema.comparison name = .paired partner := by
        simpa using hsingle
      obtain ⟨hpartner, hback⟩ := hpairs name hname partner hpaired
      have hquiet := (changesAt_pair_iff hpaired hback).mpr
        ⟨differs_update_of_paired hpairs hwant h hname hpaired,
          differs_update_of_paired hpairs hwant h hpartner hback⟩
      exact hquiet.1
  obtain ⟨again, hagain, hempty⟩ := settled_iff_changes_isEmpty.mp hsettled
  rw [hagain, Attributes.eq_empty_of_isEmpty hempty]

/-! ## A sample -/

/-- A schema with a field for each comparison. -/
def oneOfEach : Schema := ⟨[
  Field.choice "mode" ["napt", "pba"],
  Field.list "members",
  (Field.text "description").comparedBy .optionalText,
  (Field.port "low").comparedBy (.paired "high"),
  (Field.port "high").comparedBy (.paired "low"),
  (Field.text "type").comparedBy .immutable,
  { name := "allowed", shape := .keywordOrList ["all", "none"] }]⟩

/-- What is wanted of the sample: the list in another order, the text cleared,
and one end of the pair moved. -/
def eachWanted : Attributes := ⟨[
  ("mode", .text "pba"), ("members", .list ["b", "a"]), ("description", .text "none"),
  ("low", .int 10), ("type", .text "fixed"), ("allowed", .text "none")]⟩

/-- What the sample holds. -/
def eachHeld : Attributes := ⟨[
  ("mode", .text "napt"), ("members", .list ["a", "b"]), ("description", .text "old"),
  ("low", .int 5), ("high", .int 20), ("type", .text "fixed"), ("allowed", .list ["a"])]⟩

/-- What has to be sent for the sample: the other end of the pair comes along. -/
def eachChanged : Attributes := ⟨[
  ("mode", .text "pba"), ("description", .text ""), ("low", .int 10), ("high", .int 20),
  ("allowed", .text "none")]⟩

theorem pairsMutually_oneOfEach : oneOfEach.PairsMutually oneOfEach.names :=
  pairsMutually_of_partners (by decide) (by decide)

/-- The changes of the sample leave nothing to change. -/
theorem oneOfEach_update_eq_empty :
    oneOfEach.changes oneOfEach.names [] eachWanted eachHeld = .ok eachChanged ∧
      oneOfEach.changes oneOfEach.names [] eachWanted (eachHeld.update eachChanged) =
        .ok .empty := by
  have hchanges :
      oneOfEach.changes oneOfEach.names [] eachWanted eachHeld = .ok eachChanged := rfl
  exact ⟨hchanges, changes_update_eq_empty pairsMutually_oneOfEach (by decide) hchanges⟩

end Schema
end DesiredState
