import DesiredState.Proofs.Schema.Normal
import DesiredState.Proofs.Schema.Stored

/-!
# Distinct wire names

Every field is stored under one name: its wire name, or its logical name where
it has none.  As long as these names are distinct, and the logical names are,
every declared name comes back from the wire, even where the wire name of one
field is the logical name of another.
-/

namespace DesiredState
namespace Schema

variable {schema : Schema} {name : String}

/-- The names that the fields are stored under, in order. -/
def wires (schema : Schema) : List String :=
  schema.fields.map fun field => field.wire.getD field.name

theorem mem_aliases_iff {pair : String × String} :
    pair ∈ schema.aliases.pairs ↔
      ∃ field ∈ schema.fields, field.wire = some pair.1 ∧ field.name = pair.2 := by
  rw [aliases, List.mem_filterMap]
  refine exists_congr fun field => and_congr_right fun _ => ?_
  cases hwire : field.wire with
  | none => simp
  | some wire => simp [Prod.ext_iff]

/-- A name that no field is stored under stands for itself. -/
theorem toLogical_of_not_mem (h : name ∉ schema.wires) :
    schema.aliases.toLogical name = name := by
  have hnone : schema.aliases.pairs.find? (fun pair => pair.1 == name) = none := by
    rw [List.find?_eq_none]
    intro pair hpair hname
    obtain ⟨field, hfield, hwire, -⟩ := mem_aliases_iff.mp hpair
    have hstored : field.wire.getD field.name = name := by
      rw [hwire]
      exact beq_iff_eq.mp hname
    exact h (List.mem_map.mpr ⟨field, hfield, hstored⟩)
  rw [Aliases.toLogical, hnone]
  rfl

section Distinct

variable (hnames : schema.names.Nodup) (hwires : schema.wires.Nodup) {field : Field}
  (hfield : field ∈ schema.fields)

include hnames hfield in
/-- A field is sent under the name that it is stored under. -/
theorem toWire_name : schema.aliases.toWire field.name = field.wire.getD field.name := by
  unfold Aliases.toWire
  cases hfind : schema.aliases.pairs.find? fun pair => pair.2 == field.name with
  | none =>
      cases hwire : field.wire with
      | none => rfl
      | some wire =>
          have hpair : (wire, field.name) ∈ schema.aliases.pairs :=
            mem_aliases_iff.mpr ⟨field, hfield, hwire, rfl⟩
          simpa using List.find?_eq_none.mp hfind _ hpair
  | some pair =>
      have hlogical : pair.2 = field.name := by simpa using List.find?_some hfind
      obtain ⟨other, hother, hwire, hname⟩ :=
        mem_aliases_iff.mp (List.mem_of_find?_eq_some hfind)
      -- no two fields have one name, so the pair is the one of the field
      have hsame : other = field := by
        have hfound := field?_of_mem hnames hother
        rw [hname, hlogical, field?_of_mem hnames hfield] at hfound
        exact (Option.some.inj hfound).symm
      rw [← hsame, hwire]
      rfl

include hwires hfield in
/-- What is stored under the name of a field stands for the field. -/
theorem toLogical_wire : schema.aliases.toLogical (field.wire.getD field.name) = field.name := by
  unfold Aliases.toLogical
  cases hfind : schema.aliases.pairs.find?
      fun pair => pair.1 == field.wire.getD field.name with
  | none =>
      cases hwire : field.wire with
      | none => rfl
      | some wire =>
          have hpair : (wire, field.name) ∈ schema.aliases.pairs :=
            mem_aliases_iff.mpr ⟨field, hfield, hwire, rfl⟩
          rw [hwire] at hfind
          simpa using List.find?_eq_none.mp hfind _ hpair
  | some pair =>
      have hstored : pair.1 = field.wire.getD field.name := by simpa using List.find?_some hfind
      obtain ⟨other, hother, hwire, hname⟩ :=
        mem_aliases_iff.mp (List.mem_of_find?_eq_some hfind)
      -- no two fields are stored under one name either
      have hsame : other = field := by
        have hfound := Entries.find?_of_mem hwires hother
        have hkey : other.wire.getD other.name = field.wire.getD field.name := by
          rw [hwire, ← hstored]
          rfl
        rw [hkey, Entries.find?_of_mem hwires hfield] at hfound
        exact (Option.some.inj hfound).symm
      rw [Option.map_some, Option.getD_some, ← hname, hsame]

end Distinct

/-- With distinct names every declared name comes back from the wire. -/
theorem returns_of_distinct (hnames : schema.names.Nodup) (hwires : schema.wires.Nodup)
    (hname : name ∈ schema.names) : schema.Returns name := by
  obtain ⟨field, hfield, rfl⟩ := List.mem_map.mp hname
  rw [Returns, toWire_name hnames hfield, toLogical_wire hwires hfield]

/-! ## Names that stay off the wire -/

/-- The logical names that are sent under other names. -/
def aliased (schema : Schema) : List String :=
  schema.aliases.pairs.map Prod.snd

/-- No other name is sent under this one. -/
def Unwired (schema : Schema) (name : String) : Prop :=
  ∀ pair ∈ schema.aliases.pairs, pair.1 ≠ name

instance (schema : Schema) (name : String) : Decidable (schema.Unwired name) :=
  inferInstanceAs (Decidable (∀ pair ∈ schema.aliases.pairs, pair.1 ≠ name))

/-- A name is sent under itself or under an alias. -/
theorem Unwired.toWire_eq_iff (h : schema.Unwired name) (known : String) :
    schema.aliases.toWire known = name ↔ known = name ∧ name ∉ schema.aliased := by
  unfold Aliases.toWire
  cases hfind : schema.aliases.pairs.find? fun pair => pair.2 == known with
  | none =>
      have hfresh : known ∉ schema.aliased := by
        intro hmem
        obtain ⟨pair, hpair, hlogical⟩ := List.mem_map.mp hmem
        exact List.find?_eq_none.mp hfind pair hpair (beq_iff_eq.mpr hlogical)
      constructor
      · rintro rfl
        exact ⟨rfl, hfresh⟩
      · exact fun hboth => hboth.1
  | some pair =>
      have hpair := List.mem_of_find?_eq_some hfind
      have hlogical : pair.2 = known := by simpa using List.find?_some hfind
      constructor
      · intro hwire
        exact absurd hwire (h pair hpair)
      · rintro ⟨rfl, hfresh⟩
        exact absurd (List.mem_map.mpr ⟨pair, hpair, hlogical⟩) hfresh

/-- Such a name is on the wire only where it stands in the logical map and has no alias. -/
theorem Unwired.mem_names_toWire_iff (h : schema.Unwired name) (logical : Attributes) :
    name ∈ (schema.toWire logical).names ↔ name ∈ logical.names ∧ name ∉ schema.aliased := by
  have hnames : name ∈ (schema.toWire logical).names ↔
      ∃ known ∈ logical.names, schema.aliases.toWire known = name := by
    unfold toWire
    rw [Attributes.names, Attributes.ofList, Entries.mem_names_merge]
    simp [Entries.names, Attributes.names]
  rw [hnames]
  constructor
  · rintro ⟨known, hknown, hwire⟩
    obtain ⟨rfl, hfresh⟩ := (h.toWire_eq_iff known).mp hwire
    exact ⟨hknown, hfresh⟩
  · rintro ⟨hmem, hfresh⟩
    exact ⟨name, hmem, (h.toWire_eq_iff name).mpr ⟨rfl, hfresh⟩⟩

end Schema
end DesiredState
