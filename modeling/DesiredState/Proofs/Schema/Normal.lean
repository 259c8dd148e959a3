import DesiredState.Proofs.Attributes
import DesiredState.Proofs.Schema.Typed
import DesiredState.Proofs.Value

/-!
# Normal values of a shape

`Shape.Holds` says which values are normal for a shape, without a word about
how inputs are spelled.  Normalization yields such values only, coercion of
reported values leaves them alone, and a want map consists of them.
-/

namespace DesiredState

/-- The normal values of a shape. -/
def Shape.Holds : Shape → Value → Prop
  | .flag, .flag _ => True
  | .toggle, .text word => word = "enabled" ∨ word = "disabled"
  | .int low high, .int number => low ≤ number ∧ number ≤ high
  | .text, .text _ => True
  | .choice choices, .text content => content ∈ choices
  | .reference, .text _ => True
  | .list, .list _ => True
  | .referenceList, .list _ => True
  | .keywordOrList keywords, .text content => content ∈ keywords
  | .keywordOrList _, .list _ => True
  | .nested, .nested _ => True
  | _, _ => False

/-- The values that normalization yields for a shape are normal for it. -/
theorem Shape.Admits.holds {shape : Shape} {value : Value} (h : shape.Admits value) :
    shape.Holds value := by
  unfold Shape.Admits at h
  split at h
  · trivial
  · exact h
  · exact h
  · trivial
  · exact h
  · trivial
  · trivial
  · trivial
  · exact h
  · trivial
  · trivial
  · exact h.elim

/-- A normal flag is a flag. -/
theorem Shape.exists_flag_of_holds {value : Value} (h : Shape.flag.Holds value) :
    ∃ on, value = .flag on := by
  cases value with
  | flag on => exact ⟨on, rfl⟩
  | _ => exact h.elim

namespace Field

theorem refuse_ne_ok {α : Type} (field : Field) (detail : String) (value : α) :
    (field.refuse detail : Except Fault α) ≠ .ok value := by
  simp [refuse]

theorem eq_of_checkLength {field : Field} {value result : Value}
    (h : field.checkLength value = .ok result) : result = value :=
  ((yields_checkLength field value).of_ok h).1

/-- Normalization yields normal values only. -/
theorem normalize_holds {field : Field} {partition : String} {value result : Value}
    (h : field.normalize partition value = .ok result) : field.shape.Holds result :=
  (yields_normalize.of_ok h).shaped.holds

/-- A nested map is its own normal form. -/
theorem eq_of_normalize_nested {field : Field} {partition : String} {value result : Value}
    (hshape : field.shape = .nested) (h : field.normalize partition value = .ok result) :
    result = value := by
  obtain ⟨normal, hnormal, hlength⟩ := bind_eq_ok_iff.mp h
  rw [eq_of_checkLength hlength]
  unfold normalShape at hnormal
  rw [hshape] at hnormal
  cases value with
  | nested entries => exact (Except.ok.inj hnormal).symm
  | flag _ | int _ | text _ | list _ => exact absurd hnormal (refuse_ne_ok _ _ _)

/-- Without other spellings a choice is its own normal form. -/
theorem eq_of_normalize_choice {field : Field} {partition : String} {value result : Value}
    {choices : List String} (hshape : field.shape = .choice choices)
    (hspelled : field.synonyms = []) (h : field.normalize partition value = .ok result) :
    result = value := by
  have hkept : field.respell value = value := by
    cases value with
    | text content => rw [respell, hspelled]; rfl
    | _ => rfl
  obtain ⟨normal, hnormal, hlength⟩ := bind_eq_ok_iff.mp h
  rw [eq_of_checkLength hlength]
  unfold normalShape at hnormal
  rw [hshape, hkept] at hnormal
  obtain ⟨content, hcontent, hchosen⟩ := bind_eq_ok_iff.mp hnormal
  cases value with
  | text given =>
      obtain rfl : given = content := Except.ok.inj hcontent
      split at hchosen
      · exact (Except.ok.inj hchosen).symm
      · exact absurd hchosen (refuse_ne_ok _ _ _)
  | flag _ | int _ | list _ | nested _ => exact absurd hcontent (refuse_ne_ok _ _ _)

/-- Coercion leaves normal values alone. -/
theorem coerce_of_holds {field : Field} {value : Value} (h : field.shape.Holds value) :
    field.coerce value = value := by
  unfold coerce
  split
  next content hshape => simp [hshape, Shape.Holds] at h
  next on hshape => simp [hshape, Shape.Holds] at h
  next content hshape =>
    rw [hshape] at h
    rcases h with rfl | rfl
    · rfl
    · rfl
  next low high content hshape => simp [hshape, Shape.Holds] at h
  next content hshape => simp [hshape, Shape.Holds] at h
  next content hshape => simp [hshape, Shape.Holds] at h
  next => rfl

end Field

namespace Schema

/-! ## Want maps -/

/-- A want map holds what is wanted of the fields, one after the other. -/
theorem pairs_of_want {schema : Schema} {params want : Attributes} {partition : String}
    (h : schema.want params partition = .ok want) :
    ∃ pairs, schema.fields.mapM (wanted params partition) = .ok pairs ∧
      want = Attributes.ofList (pairs.filterMap id) := by
  unfold Schema.want at h
  split at h
  · cases h
  · obtain ⟨pairs, hpairs, hwant⟩ := bind_eq_ok_iff.mp h
    exact ⟨pairs, hpairs, (Except.ok.inj hwant).symm⟩

/-- What is wanted is what the caller gave for a field, in normal form. -/
theorem normalized_of_want {schema : Schema} {params want : Attributes}
    {partition name : String} {value : Value}
    (h : schema.want params partition = .ok want) (hvalue : want.get? name = some value) :
    ∃ field ∈ schema.fields, field.name = name ∧
      ∃ given, params.get? name = some given ∧
        field.normalize partition given = .ok value := by
  obtain ⟨pairs, hpairs, rfl⟩ := pairs_of_want h
  rw [Attributes.get?_ofList] at hvalue
  have hmem : some (name, value) ∈ pairs := by
    simpa using List.mem_filterMap.mp (Entries.mem_of_latest hvalue)
  -- the pair was made from one of the fields
  obtain ⟨field, hfield, hwanted⟩ := exists_of_mem_of_mapM_eq_ok hpairs hmem
  unfold wanted at hwanted
  split at hwanted
  · simp at hwanted
  next given hgiven =>
    obtain ⟨normal, hnormal, hpair⟩ := bind_eq_ok_iff.mp hwanted
    obtain ⟨rfl, rfl⟩ : field.name = name ∧ normal = value := by
      simpa [pure, Except.pure] using hpair
    exact ⟨field, hfield, rfl, given, hgiven, hnormal⟩

/-- Declared names only are wanted. -/
theorem names_of_want {schema : Schema} {params want : Attributes} {partition : String}
    (h : schema.want params partition = .ok want) :
    ∀ name ∈ want.names, name ∈ schema.names := by
  intro name hname
  obtain ⟨value, hvalue⟩ := Attributes.mem_names_iff.mp hname
  obtain ⟨field, hfield, rfl, -⟩ := normalized_of_want h hvalue
  exact List.mem_map_of_mem hfield

/-- What the caller gives for a declared name is wanted. -/
theorem contains_of_given {schema : Schema} {params want : Attributes} {partition : String}
    (h : schema.want params partition = .ok want) {field : Field}
    (hfield : field ∈ schema.fields) (hgiven : params.contains field.name = true) :
    want.contains field.name = true := by
  obtain ⟨given, hgiven⟩ := Attributes.contains_iff.mp hgiven
  obtain ⟨pairs, hpairs, rfl⟩ := pairs_of_want h
  obtain ⟨pair, hpair, hwanted⟩ := exists_of_mapM_eq_ok hpairs hfield
  rw [wanted, hgiven] at hwanted
  obtain ⟨value, -, hsome⟩ := bind_eq_ok_iff.mp hwanted
  obtain rfl := Except.ok.inj hsome
  have hmem : (field.name, value) ∈ pairs.filterMap id :=
    List.mem_filterMap.mpr ⟨_, hpair, rfl⟩
  rw [Attributes.contains, Attributes.get?_ofList]
  cases hlatest : Entries.latest field.name (pairs.filterMap id) with
  | some found => rfl
  | none =>
      exact absurd (List.mem_map_of_mem hmem) (Entries.latest_eq_none_iff.mp hlatest)

theorem distinct_of_want {schema : Schema} {params want : Attributes} {partition : String}
    (h : schema.want params partition = .ok want) : want.Distinct := by
  obtain ⟨pairs, -, rfl⟩ := pairs_of_want h
  exact Attributes.distinct_ofList _

/-- A declared field is found under its name when no name is declared twice. -/
theorem field?_of_mem {schema : Schema} (hnames : schema.names.Nodup) {field : Field}
    (h : field ∈ schema.fields) : schema.field? field.name = some field :=
  Entries.find?_of_mem hnames h

theorem mem_names_of_field? {schema : Schema} {name : String} {field : Field}
    (h : schema.field? name = some field) : name ∈ schema.names := by
  obtain rfl : field.name = name := by simpa using List.find?_some h
  exact List.mem_map_of_mem (List.mem_of_find?_eq_some h)

/-- Every wanted value is normal for its field. -/
theorem holds_of_want {schema : Schema} (hnames : schema.names.Nodup)
    {params want : Attributes} {partition name : String} {value : Value}
    (h : schema.want params partition = .ok want) (hvalue : want.get? name = some value) :
    ∃ field, schema.field? name = some field ∧ field.shape.Holds value := by
  obtain ⟨field, hfield, rfl, given, -, hnormal⟩ := normalized_of_want h hvalue
  exact ⟨field, field?_of_mem hnames hfield, Field.normalize_holds hnormal⟩

end Schema
end DesiredState
