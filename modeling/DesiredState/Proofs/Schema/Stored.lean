import DesiredState.Proofs.Attributes
import DesiredState.Schema.Basic

/-!
# Stored attributes

How the logical view of a stored resource follows an update of the resource.
An update finds its place by wire name, the view goes by logical name.  The two
disagree only when the resource also holds, behind the updated entry, another
entry that stands for the same attribute: the update is then shadowed and the
view keeps the old value.
-/

namespace DesiredState

namespace Schema

/-- A logical name that comes back from the wire. -/
def Returns (schema : Schema) (name : String) : Prop :=
  schema.aliases.toLogical (schema.aliases.toWire name) = name

instance (schema : Schema) (name : String) : Decidable (schema.Returns name) :=
  inferInstanceAs (Decidable (_ = _))

/-- A name that neither is a wire name nor has one of its own. -/
def Plain (schema : Schema) (name : String) : Prop :=
  ∀ pair ∈ schema.aliases.pairs, pair.1 ≠ name ∧ pair.2 ≠ name

instance (schema : Schema) (name : String) : Decidable (schema.Plain name) :=
  inferInstanceAs (Decidable (∀ pair ∈ schema.aliases.pairs, pair.1 ≠ name ∧ pair.2 ≠ name))

/-- A reported value under a logical name, in the declared shape. -/
def coerced (schema : Schema) (name : String) (value : Value) : Value :=
  ((schema.field? name).map fun field => field.coerce value).getD value

/-- Whether a stored entry is shadowed: after the first entry under the wire
name comes another one that stands for the same attribute. -/
def shadowed (schema : Schema) (wire : String) : List (String × Value) → Bool
  | [] => false
  | (known, _) :: rest =>
      if known = wire then
        rest.any fun entry =>
          schema.aliases.toLogical entry.1 == schema.aliases.toLogical wire
      else
        shadowed schema wire rest

variable {schema : Schema}

theorem coerced_of_undeclared {name : String} (h : schema.field? name = none)
    (value : Value) : schema.coerced name value = value := by
  simp [coerced, h]

theorem logicalEntry_eq (known : String) (value : Value) :
    schema.logicalEntry (known, value) =
      (schema.aliases.toLogical known,
        schema.coerced (schema.aliases.toLogical known) value) := by
  cases h : schema.field? (schema.aliases.toLogical known) <;>
    simp [logicalEntry, coerced, h]

theorem get?_ofWire (raw : Attributes) (name : String) :
    (schema.ofWire raw).get? name =
      Entries.latest name (raw.entries.map schema.logicalEntry) :=
  Attributes.get?_ofList _ _

theorem distinct_toWire (logical : Attributes) : (schema.toWire logical).Distinct :=
  Attributes.distinct_ofList _

/-! ## Plain names -/

theorem Plain.toWire_eq {name : String} (h : schema.Plain name) :
    schema.aliases.toWire name = name := by
  have hnone : schema.aliases.pairs.find? (fun pair => pair.2 == name) = none := by
    rw [List.find?_eq_none]
    intro pair hpair
    simpa using (h pair hpair).2
  simp [Aliases.toWire, hnone]

theorem Plain.toLogical_eq_iff {name : String} (h : schema.Plain name) (known : String) :
    schema.aliases.toLogical known = name ↔ known = name := by
  unfold Aliases.toLogical
  cases hfind : schema.aliases.pairs.find? fun pair => pair.1 == known with
  | none => simp
  | some pair =>
      have hmem : pair ∈ schema.aliases.pairs := List.mem_of_find?_eq_some hfind
      have hwire : pair.1 = known := by simpa using List.find?_some hfind
      obtain ⟨hfst, hsnd⟩ := h pair hmem
      constructor
      · intro heq
        exact absurd heq hsnd
      · intro heq
        exact absurd (hwire.trans heq) hfst

theorem Plain.returns {name : String} (h : schema.Plain name) : schema.Returns name := by
  rw [Returns, h.toWire_eq, h.toLogical_eq_iff]

/-- Under a plain name the view shows what is stored under it. -/
theorem Plain.get?_ofWire {name : String} (h : schema.Plain name) {raw : Attributes}
    (hraw : raw.Distinct) :
    (schema.ofWire raw).get? name = (raw.get? name).map (schema.coerced name) := by
  rw [Schema.get?_ofWire, Attributes.get?, ← Entries.latest_eq_lookup hraw]
  obtain ⟨entries⟩ := raw
  induction entries with
  | nil => rfl
  | cons entry rest ih =>
      obtain ⟨known, value⟩ := entry
      obtain ⟨-, hrest⟩ := List.nodup_cons.mp hraw
      simp only [List.map_cons, logicalEntry_eq, Entries.latest, ih hrest]
      by_cases hk : known = name
      · rw [if_pos hk, if_pos ((h.toLogical_eq_iff known).mpr hk),
          (h.toLogical_eq_iff known).mpr hk]
        cases Entries.latest name rest <;> rfl
      · rw [if_neg hk, if_neg (fun heq => hk ((h.toLogical_eq_iff known).mp heq))]
        simp

/-- A flag that is not declared is shown as it is stored. -/
theorem Plain.flag?_ofWire {name : String} (h : schema.Plain name) {raw : Attributes}
    (hraw : raw.Distinct) (hundeclared : schema.field? name = none) :
    (schema.ofWire raw).flag? name = raw.flag? name := by
  rw [Attributes.flag?, h.get?_ofWire hraw, Attributes.flag?]
  cases raw.get? name with
  | none => rfl
  | some value => rw [Option.map_some, coerced_of_undeclared hundeclared]

/-- An entry under a plain name is never shadowed. -/
theorem Plain.shadowed_eq_false {name : String} (h : schema.Plain name)
    {raw : Attributes} (hraw : raw.Distinct) :
    schema.shadowed name raw.entries = false := by
  obtain ⟨entries⟩ := raw
  induction entries with
  | nil => rfl
  | cons entry rest ih =>
      obtain ⟨known, value⟩ := entry
      obtain ⟨hfresh, hrest⟩ := List.nodup_cons.mp hraw
      by_cases hk : known = name
      · subst hk
        simp only [shadowed, if_true, List.any_eq_false, beq_iff_eq]
        intro other hother heq
        rw [(h.toLogical_eq_iff known).mpr rfl, h.toLogical_eq_iff] at heq
        exact hfresh (List.mem_map.mpr ⟨other, hother, heq⟩)
      · simp only [shadowed, if_neg hk]
        exact ih hrest

theorem Plain.shadowed_toWire {name : String} (h : schema.Plain name) {raw : Attributes}
    (hraw : raw.Distinct) :
    schema.shadowed (schema.aliases.toWire name) raw.entries = false := by
  rw [h.toWire_eq]
  exact h.shadowed_eq_false hraw

/-! ## Updates -/

theorem latest_put_of_ne {wire name : String}
    (h : schema.aliases.toLogical wire ≠ name) (value : Value)
    (entries : List (String × Value)) :
    Entries.latest name ((Entries.put wire value entries).map schema.logicalEntry) =
      Entries.latest name (entries.map schema.logicalEntry) := by
  induction entries with
  | nil => simp [Entries.put, Entries.latest, logicalEntry_eq, h]
  | cons entry rest ih =>
      obtain ⟨known, old⟩ := entry
      by_cases hk : known = wire
      · subst hk
        simp [Entries.put, Entries.latest, logicalEntry_eq, h]
      · simp [Entries.put, hk, Entries.latest, ih]

/-- Some entry stands for an attribute exactly when the view finds it. -/
theorem any_stands_eq_isSome (name : String) (entries : List (String × Value)) :
    (entries.any fun entry => schema.aliases.toLogical entry.1 == name) =
      (Entries.latest name (entries.map schema.logicalEntry)).isSome := by
  induction entries with
  | nil => rfl
  | cons entry rest ih =>
      obtain ⟨known, value⟩ := entry
      simp only [List.any_cons, List.map_cons, logicalEntry_eq, Entries.latest, ih,
        Option.isSome_or]
      by_cases hk : schema.aliases.toLogical known = name
      · simp [hk]
      · simp [hk]

/-- What an update stores is seen unless it is shadowed. -/
theorem latest_put_self (schema : Schema) (wire : String) (value : Value)
    (entries : List (String × Value)) :
    Entries.latest (schema.aliases.toLogical wire)
        ((Entries.put wire value entries).map schema.logicalEntry) =
      if schema.shadowed wire entries then
        Entries.latest (schema.aliases.toLogical wire) (entries.map schema.logicalEntry)
      else
        some (schema.coerced (schema.aliases.toLogical wire) value) := by
  induction entries with
  | nil => simp [Entries.put, Entries.latest, logicalEntry_eq, shadowed]
  | cons entry rest ih =>
      obtain ⟨known, old⟩ := entry
      by_cases hk : known = wire
      · -- the entry is replaced in place, so later ones still win
        subst hk
        simp only [Entries.put, if_true, List.map_cons, logicalEntry_eq, Entries.latest,
          shadowed]
        rw [any_stands_eq_isSome]
        cases Entries.latest (schema.aliases.toLogical known)
          (rest.map schema.logicalEntry) <;> simp
      · simp only [Entries.put, if_neg hk, List.map_cons, logicalEntry_eq, Entries.latest,
          shadowed, ih]
        split
        · rfl
        · simp

theorem shadowed_put_of_ne {wire other : String}
    (h : schema.aliases.toLogical other ≠ schema.aliases.toLogical wire) (value : Value)
    (entries : List (String × Value)) :
    schema.shadowed wire (Entries.put other value entries) =
      schema.shadowed wire entries := by
  have hne : other ≠ wire := fun heq => h (congrArg _ heq)
  -- entries for other attributes neither shadow this one nor move it
  induction entries with
  | nil => simp [Entries.put, shadowed, hne]
  | cons entry rest ih =>
      obtain ⟨known, old⟩ := entry
      by_cases hk : known = other
      · subst hk
        simp [Entries.put, shadowed, hne]
      · by_cases hw : known = wire
        · subst hw
          simp only [Entries.put, if_neg hk, shadowed, if_true, any_stands_eq_isSome,
            latest_put_of_ne h]
        · simp [Entries.put, hk, shadowed, hw, ih]

/-- A wire map that carries a logical one: each name that returns is carried
under its wire name, and nothing else is. -/
structure Carries (schema : Schema) (body logical : Attributes) : Prop where
  /-- No wire name is sent twice. -/
  distinct : body.Distinct
  /-- What is carried under a name. -/
  get?_toWire : ∀ name, schema.Returns name →
    body.get? (schema.aliases.toWire name) = logical.get? name
  /-- Every wire name is that of a name that returns. -/
  returns : ∀ known ∈ body.names,
    ∃ name, schema.Returns name ∧ known = schema.aliases.toWire name

/-- The wire map of names that return carries them. -/
theorem carries_toWire {logical : Attributes} (hdistinct : logical.Distinct)
    (hreturns : ∀ name ∈ logical.names, schema.Returns name) :
    schema.Carries (schema.toWire logical) logical where
  distinct := distinct_toWire logical
  get?_toWire := by
    intro name hname
    obtain ⟨entries⟩ := logical
    rw [toWire, Attributes.get?_ofList, Attributes.get?,
      ← Entries.latest_eq_lookup hdistinct]
    clear hdistinct
    induction entries with
    | nil => rfl
    | cons entry rest ih =>
        obtain ⟨known, value⟩ := entry
        have hrest : ∀ other ∈ Attributes.names ⟨rest⟩, schema.Returns other :=
          fun other hother => hreturns other (List.mem_cons_of_mem _ hother)
        have hknown : schema.Returns known := hreturns known List.mem_cons_self
        -- names that return have different wire names
        have hwire : schema.aliases.toWire known = schema.aliases.toWire name ↔
            known = name := by
          constructor
          · intro heq
            rw [← hknown, heq, hname]
          · exact congrArg _
        simp only [List.map_cons, Entries.latest, ih hrest, hwire]
  returns := by
    intro known hknown
    obtain ⟨name, hname, rfl⟩ : ∃ name ∈ logical.names,
        schema.aliases.toWire name = known := by
      have hmem := Entries.mem_names_merge.mp hknown
      simpa [Entries.names, Attributes.names] using hmem
    exact ⟨name, hreturns name hname, rfl⟩

/-- One carried map sent over another carries the one set over the other. -/
theorem Carries.update {body logical other wanted : Attributes}
    (h : schema.Carries body logical) (hother : schema.Carries other wanted)
    (hwanted : wanted.Distinct) :
    schema.Carries (body.update other) (logical.update wanted) where
  distinct := h.distinct.update other
  get?_toWire := by
    intro name hname
    rw [Attributes.get?_update body hother.distinct,
      Attributes.get?_update logical hwanted, h.get?_toWire name hname,
      hother.get?_toWire name hname]
  returns := by
    intro known hknown
    rcases Entries.mem_names_merge.mp hknown with hbody | hmore
    · exact h.returns known hbody
    · exact hother.returns known hmore

/-- Plain names are carried as they are. -/
theorem carries_of_plain {logical : Attributes} (hdistinct : logical.Distinct)
    (hplain : ∀ name ∈ logical.names, schema.Plain name) :
    schema.Carries logical logical where
  distinct := hdistinct
  get?_toWire := by
    intro name hname
    by_cases hknown : name ∈ logical.names
    · rw [(hplain name hknown).toWire_eq]
    · rw [Attributes.get?_eq_none_iff.mpr hknown, Attributes.get?_eq_none_iff]
      -- the wire name of another attribute is no plain name
      intro hwire
      have heq : schema.aliases.toLogical (schema.aliases.toWire name) =
          schema.aliases.toWire name :=
        ((hplain _ hwire).toLogical_eq_iff _).mpr rfl
      rw [hname] at heq
      exact hknown (heq ▸ hwire)
  returns := by
    intro known hknown
    exact ⟨known, (hplain known hknown).returns, (hplain known hknown).toWire_eq.symm⟩

/-- The view of an updated resource shows what was sent, unless it is shadowed,
and otherwise what it showed before. -/
theorem Carries.get?_ofWire_update {body logical : Attributes}
    (h : schema.Carries body logical) (raw : Attributes) {name : String}
    (hname : schema.Returns name) :
    (schema.ofWire (raw.update body)).get? name =
      match logical.get? name with
      | some value =>
          if schema.shadowed (schema.aliases.toWire name) raw.entries then
            (schema.ofWire raw).get? name
          else
            some (schema.coerced name value)
      | none => (schema.ofWire raw).get? name := by
  obtain ⟨entries⟩ := raw
  obtain ⟨changes⟩ := body
  rw [← h.get?_toWire name hname]
  have honly : ∀ known ∈ Entries.names changes,
      schema.aliases.toLogical known = name → known = schema.aliases.toWire name := by
    intro known hknown heq
    obtain ⟨origin, horigin, rfl⟩ := h.returns known hknown
    rw [← heq, horigin]
  have hdistinct : Entries.Distinct changes := h.distinct
  clear h
  simp only [get?_ofWire, Attributes.update]
  simp only [Attributes.get?]
  -- the changes are stored one by one; at most one of them is about this name
  induction changes generalizing entries with
  | nil => rfl
  | cons change rest ih =>
      obtain ⟨known, value⟩ := change
      obtain ⟨hfresh, hrest⟩ := List.nodup_cons.mp hdistinct
      have honlyRest := fun other hother => honly other (List.mem_cons_of_mem _ hother)
      rw [Entries.merge_cons, ih _ honlyRest hrest]
      by_cases hk : known = schema.aliases.toWire name
      · subst hk
        have hnone : rest.lookup (schema.aliases.toWire name) = none :=
          Entries.lookup_eq_none_iff.mpr hfresh
        have hput := schema.latest_put_self (schema.aliases.toWire name) value entries
        rw [hname] at hput
        simp only [hnone, List.lookup_cons_self, hput]
      · have hne : schema.aliases.toLogical known ≠ name :=
          fun heq => hk (honly known List.mem_cons_self heq)
        have hshadow : schema.shadowed (schema.aliases.toWire name)
            (Entries.put known value entries) =
              schema.shadowed (schema.aliases.toWire name) entries :=
          shadowed_put_of_ne (by rw [hname]; exact hne) value entries
        rw [Entries.lookup_cons_of_ne (Ne.symm hk), hshadow, latest_put_of_ne hne]

/-- What stands for other attributes does not change the view of one. -/
theorem get?_ofWire_update_of_ne {raw body : Attributes} {name : String}
    (h : ∀ known ∈ body.names, schema.aliases.toLogical known ≠ name) :
    (schema.ofWire (raw.update body)).get? name = (schema.ofWire raw).get? name := by
  obtain ⟨entries⟩ := raw
  obtain ⟨changes⟩ := body
  simp only [get?_ofWire, Attributes.update]
  induction changes generalizing entries with
  | nil => rfl
  | cons change rest ih =>
      obtain ⟨known, value⟩ := change
      obtain ⟨hknown, hrest⟩ := List.forall_mem_cons.mp h
      rw [Entries.merge_cons, ih _ hrest, latest_put_of_ne hknown]

/-- The view of a carried map shows what it carries. -/
theorem Carries.get?_ofWire {body logical : Attributes}
    (h : schema.Carries body logical) {name : String} (hname : schema.Returns name) :
    (schema.ofWire body).get? name = (logical.get? name).map (schema.coerced name) := by
  -- a map on its own is an update of nothing
  have hself : Attributes.empty.update body = body := by
    obtain ⟨entries⟩ := body
    have hdistinct : Entries.Distinct ([] ++ entries) := h.distinct
    simp only [Attributes.update, Attributes.empty, Entries.merge_eq_append hdistinct,
      List.nil_append]
  have hview := h.get?_ofWire_update Attributes.empty hname
  rw [hself] at hview
  rw [hview]
  cases logical.get? name <;> rfl

/-- What is written for names that return is shown under these names, and under no
others. -/
theorem get?_ofWire_toWire {logical : Attributes} (hdistinct : logical.Distinct)
    (hreturns : ∀ name ∈ logical.names, schema.Returns name) (name : String) :
    (schema.ofWire (schema.toWire logical)).get? name =
      (logical.get? name).map (schema.coerced name) := by
  have hcarries := carries_toWire hdistinct hreturns
  by_cases hname : schema.Returns name
  · exact hcarries.get?_ofWire hname
  · rw [Attributes.get?_eq_none_iff.mpr fun hmem => hname (hreturns name hmem), get?_ofWire,
      Option.map_none, Entries.latest_eq_none_iff]
    -- every entry on the wire stands for a name that returns
    intro hmem
    obtain ⟨shown, hshown, rfl⟩ := List.mem_map.mp hmem
    obtain ⟨⟨known, value⟩, hentry, rfl⟩ := List.mem_map.mp hshown
    obtain ⟨origin, horigin, rfl⟩ := hcarries.returns known (Entries.mem_names_of_mem hentry)
    rw [logicalEntry_eq, horigin] at hname
    exact hname horigin

end Schema
end DesiredState
