import DesiredState.Attributes
import DesiredState.Proofs.Entries

/-!
# Laws of attribute maps

What is found in a map after setting, unsetting, updating and building it.
Unsetting a name only makes it disappear from a map whose names are distinct,
and every operation keeps them distinct.
-/

namespace DesiredState
namespace Attributes

/-- No name is stored twice. -/
def Distinct (set : Attributes) : Prop :=
  Entries.Distinct set.entries

theorem distinct_empty : empty.Distinct :=
  List.nodup_nil

theorem Distinct.insert {set : Attributes} (h : set.Distinct) (name : String)
    (value : Value) : (set.insert name value).Distinct :=
  Entries.Distinct.put h name value

theorem Distinct.erase {set : Attributes} (h : set.Distinct) (name : String) :
    (set.erase name).Distinct :=
  Entries.Distinct.erase h name

theorem Distinct.update {set : Attributes} (h : set.Distinct) (changes : Attributes) :
    (set.update changes).Distinct :=
  Entries.Distinct.merge h changes.entries

theorem distinct_ofList (pairs : List (String × Value)) : (ofList pairs).Distinct :=
  Entries.Distinct.merge distinct_empty pairs

/-! ## Look-up -/

@[simp] theorem get?_empty (name : String) : empty.get? name = none :=
  rfl

theorem get?_insert (set : Attributes) (name other : String) (value : Value) :
    (set.insert name value).get? other =
      if name = other then some value else set.get? other :=
  Entries.lookup_put name other value set.entries

theorem insert_of_get? {set : Attributes} {name : String} {value : Value}
    (h : set.get? name = some value) : set.insert name value = set :=
  congrArg mk (Entries.put_of_lookup h)

theorem get?_erase_of_ne (set : Attributes) {name other : String} (h : other ≠ name) :
    (set.erase name).get? other = set.get? other :=
  Entries.lookup_erase_of_ne h set.entries

theorem Distinct.get?_erase {set : Attributes} (h : set.Distinct) (name other : String) :
    (set.erase name).get? other = if name = other then none else set.get? other := by
  by_cases hname : name = other
  · rw [if_pos hname, ← hname]
    exact Entries.lookup_erase_self h name
  · rw [if_neg hname, get?_erase_of_ne set (Ne.symm hname)]

/-- What is built from pairs has the last value that is given for a name. -/
theorem get?_ofList (pairs : List (String × Value)) (name : String) :
    (ofList pairs).get? name = Entries.latest name pairs := by
  simp [get?, ofList, Entries.lookup_merge]

/-- Changes win over what is there. -/
theorem get?_update (set : Attributes) {changes : Attributes} (h : changes.Distinct)
    (name : String) :
    (set.update changes).get? name = (changes.get? name).or (set.get? name) := by
  simp [get?, update, Entries.lookup_merge, Entries.latest_eq_lookup h]

/-- Pairs of distinct names are set as they come. -/
theorem ofList_of_distinct {pairs : List (String × Value)} (h : Entries.Distinct pairs) :
    ofList pairs = ⟨pairs⟩ :=
  congrArg mk (Entries.merge_eq_append h)

theorem get?_eq_none_iff {set : Attributes} {name : String} :
    set.get? name = none ↔ name ∉ set.names :=
  Entries.lookup_eq_none_iff

theorem mem_names_iff {set : Attributes} {name : String} :
    name ∈ set.names ↔ ∃ value, set.get? name = some value := by
  rw [← Option.ne_none_iff_exists', ne_eq, get?_eq_none_iff, Classical.not_not]

theorem mem_names_of_erase {set : Attributes} {name other : String}
    (h : other ∈ (set.erase name).names) : other ∈ set.names := by
  have hmem : other ∈ (Entries.names set.entries).erase name :=
    Entries.names_erase name set.entries ▸ h
  exact List.mem_of_mem_erase hmem

theorem mem_names_of_insert {set : Attributes} {name other : String} {value : Value}
    (h : other ∈ (set.insert name value).names) : other = name ∨ other ∈ set.names := by
  obtain ⟨found, hfound⟩ := mem_names_iff.mp h
  rw [get?_insert] at hfound
  split at hfound
  · rename_i heq
    exact Or.inl heq.symm
  · exact Or.inr (mem_names_iff.mpr ⟨found, hfound⟩)

theorem contains_iff {set : Attributes} {name : String} :
    set.contains name = true ↔ ∃ value, set.get? name = some value :=
  Option.isSome_iff_exists

theorem contains_eq_false_iff {set : Attributes} {name : String} :
    set.contains name = false ↔ set.get? name = none :=
  Option.isSome_eq_false_iff.trans Option.isNone_iff_eq_none

theorem int?_eq_some_iff {set : Attributes} {name : String} {number : Int} :
    set.int? name = some number ↔ set.get? name = some (.int number) := by
  rw [int?]
  cases hvalue : set.get? name with
  | none => simp
  | some value => cases value <;> simp [Value.asInt]

theorem text?_eq_some_iff {set : Attributes} {name content : String} :
    set.text? name = some content ↔ set.get? name = some (.text content) := by
  rw [text?]
  cases hvalue : set.get? name with
  | none => simp
  | some value => cases value <;> simp [Value.asText]

theorem flag?_eq_some_iff {set : Attributes} {name : String} {on : Bool} :
    set.flag? name = some on ↔ set.get? name = some (.flag on) := by
  rw [flag?]
  cases hvalue : set.get? name with
  | none => simp
  | some value => cases value <;> simp [Value.asFlag]

/-- Nothing is set exactly when no name is found. -/
theorem isEmpty_iff {set : Attributes} :
    set.isEmpty = true ↔ ∀ name, set.get? name = none := by
  obtain ⟨entries⟩ := set
  constructor
  · intro h name
    have hnil : entries = [] := List.isEmpty_iff.mp h
    subst hnil
    rfl
  · intro h
    cases entries with
    | nil => rfl
    | cons entry rest =>
        have hfound := h entry.1
        simp [get?] at hfound

/-- The map with nothing set is the only one that is empty. -/
theorem eq_empty_of_isEmpty {set : Attributes} (h : set.isEmpty = true) : set = empty := by
  obtain ⟨entries⟩ := set
  have hnil : entries = [] := List.isEmpty_iff.mp h
  subst hnil
  rfl

end Attributes
end DesiredState
