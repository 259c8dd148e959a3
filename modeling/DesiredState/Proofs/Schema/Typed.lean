import DesiredState.Proofs.Except
import DesiredState.Schema.Basic

/-!
# Typed values

`Shape.Admits` says which values have a shape once they are in normal form,
without a word about how inputs are spelled: references are qualified or
empty, and no list asks for clearing by a single item.  `Field.Admits` adds the
bound on the length of texts.

`Field.Yields` is a judgment on the computations that bring an input into
normal form: they give a value with some property, or they refuse the input
with a fault that names the field.  It has a rule for a result, for a refusal
and for a sequence, so that every part of normalization has one lemma, about
success and failure at once.  The main statements are that normalization
yields values that the field admits (`Field.yields_normalize`), and that every
such value is its own normal form in every partition, as long as no synonym is
spelled like it (`Field.normalize_of_admits`).
-/

namespace DesiredState

/-! ## Qualified names -/

/-- A name that starts with a slash. -/
def Qualified (name : String) : Prop :=
  name.toList.head? = some '/'

instance (name : String) : Decidable (Qualified name) :=
  inferInstanceAs (Decidable (_ = _))

theorem qualified_qualify (partition name : String) : Qualified (qualify partition name) := by
  unfold qualify
  split
  next rest hname => simp [Qualified, hname]
  next => simp [Qualified]

/-- A qualified name is left as it is, whatever the partition. -/
theorem qualify_of_qualified {name : String} (h : Qualified name) (partition : String) :
    qualify partition name = name := by
  obtain ⟨rest, hname⟩ := List.head?_eq_some_iff.mp h
  unfold qualify
  split
  next => rfl
  next hother => exact absurd hname (hother rest)

/-- The words that ask for clearing are not qualified. -/
theorem Qualified.ne_clear {name : String} (h : Qualified name) :
    name ≠ "" ∧ name ≠ "none" := by
  constructor
  · rintro rfl
    cases h
  · rintro rfl
    cases h

/-! ## Values of a shape -/

/-- A list that does not ask for clearing by a single item. -/
def Unmasked (items : List String) : Prop :=
  items ≠ [""] ∧ items ≠ ["none"]

/-- The values that have a shape once they are in normal form. -/
def Shape.Admits : Shape → Value → Prop
  | .flag, .flag _ => True
  | .toggle, .text word => word = "enabled" ∨ word = "disabled"
  | .int low high, .int number => low ≤ number ∧ number ≤ high
  | .text, .text _ => True
  | .choice choices, .text content => content ∈ choices
  | .reference, .text content => content = "" ∨ Qualified content
  | .list, .list items => Unmasked items
  | .referenceList, .list items => Unmasked items ∧ ∀ item ∈ items, Qualified item
  | .keywordOrList keywords, .text content => content ∈ keywords
  | .keywordOrList _, .list items => Unmasked items
  | .nested, .nested _ => True
  | _, _ => False

/-- Whether a text has a shape can be decided. -/
instance (content : String) : (shape : Shape) → Decidable (shape.Admits (.text content))
  | .text => isTrue trivial
  | .toggle => inferInstanceAs (Decidable (content = "enabled" ∨ content = "disabled"))
  | .choice choices => inferInstanceAs (Decidable (content ∈ choices))
  | .reference => inferInstanceAs (Decidable (content = "" ∨ Qualified content))
  | .keywordOrList keywords => inferInstanceAs (Decidable (content ∈ keywords))
  | .flag | .int _ _ | .list | .referenceList | .nested => isFalse id

namespace Field

variable {field : Field} {partition : String} {value : Value}

/-- A text has no more characters than the field allows. -/
def Fits (field : Field) (value : Value) : Prop :=
  ∀ limit content, field.maxLength = some limit → value = .text content →
    content.length ≤ limit

/-- The values that a field can have once they are in normal form. -/
structure Admits (field : Field) (value : Value) : Prop where
  /-- The value has the declared shape. -/
  shaped : field.shape.Admits value
  /-- A text is not too long. -/
  fits : field.Fits value

/-- No synonym is spelled like a value in normal form. -/
def Unambiguous (field : Field) : Prop :=
  ∀ pair ∈ field.synonyms, ¬ field.shape.Admits (.text pair.1)

instance (field : Field) : Decidable field.Unambiguous :=
  inferInstanceAs (Decidable (∀ pair ∈ field.synonyms, ¬ field.shape.Admits (.text pair.1)))

/-! ## Computations that judge an input -/

/-- A computation gives a value with a property, or refuses with a fault that
names the field. -/
def Yields {α : Type} (field : Field) (holds : α → Prop) : Except Fault α → Prop
  | .ok value => holds value
  | .error fault => ∃ detail, fault = .validation field.name detail

section Rules

variable {α β : Type} {holds : α → Prop} {post : β → Prop} {computed : Except Fault α}

theorem yields_refuse (detail : String) : field.Yields holds (field.refuse detail) :=
  ⟨detail, rfl⟩

theorem Yields.bind {next : α → Except Fault β} (h : field.Yields holds computed)
    (hnext : ∀ value, holds value → field.Yields post (next value)) :
    field.Yields post (computed >>= next) := by
  cases computed with
  | ok value => exact hnext value h
  | error fault => exact h

theorem Yields.of_ok (h : field.Yields holds computed) {value : α}
    (hok : computed = .ok value) : holds value := by
  rw [hok] at h
  exact h

theorem Yields.of_error (h : field.Yields holds computed) {fault : Fault}
    (herror : computed = .error fault) : ∃ detail, fault = .validation field.name detail := by
  rw [herror] at h
  exact h

end Rules

/-! ## What normalization yields -/

theorem yields_normalFlag : field.Yields (fun _ => True) (field.normalFlag value) := by
  unfold normalFlag
  split
  · trivial
  · exact yields_refuse _

/-- A number that is read is refused out of bounds only. -/
theorem yields_normalInt {low high : Int} :
    field.Yields (fun number => low ≤ number ∧ number ≤ high)
      (field.normalInt low high value) := by
  have hrange : ∀ read : Int, field.Yields (fun number => low ≤ number ∧ number ≤ high)
      (if read < low ∨ high < read then
        field.refuse s!"Valid '{field.name}' must be in range {low} - {high}."
      else
        .ok read) := by
    intro read
    split
    · exact yields_refuse _
    · rename_i hbounds
      exact ⟨by omega, by omega⟩
  unfold normalInt
  split
  · exact hrange _
  · split
    · exact hrange _
    · exact yields_refuse _
  · exact yields_refuse _

theorem yields_normalText : field.Yields (fun _ => True) (field.normalText value) := by
  unfold normalText
  split
  · trivial
  · trivial
  · trivial
  · exact yields_refuse _

theorem yields_plainText :
    field.Yields (fun content => value = .text content) (field.plainText value) := by
  unfold plainText
  split
  · exact rfl
  · exact yields_refuse _

theorem unmasked_clearedList (items : List String) : Unmasked (clearedList items) := by
  unfold clearedList
  split
  next item =>
    split
    · exact ⟨nofun, nofun⟩
    · rename_i hclear
      simpa [Unmasked] using hclear
  next items hother => exact ⟨hother "", hother "none"⟩

/-- Of a list that does not ask for clearing nothing is dropped. -/
theorem clearedList_of_unmasked {items : List String} (h : Unmasked items) :
    clearedList items = items := by
  unfold clearedList
  split
  next item =>
    rw [if_neg]
    simpa [Unmasked] using h
  next => rfl

theorem yields_normalList : field.Yields Unmasked (field.normalList value) := by
  unfold normalList
  split
  · exact unmasked_clearedList _
  · exact unmasked_clearedList _
  · exact yields_refuse _

/-- Qualifying every item of a list leaves no item that asks for clearing. -/
theorem unmasked_of_qualified {items : List String} (h : ∀ item ∈ items, Qualified item) :
    Unmasked items := by
  constructor
  · rintro rfl
    exact (h "" List.mem_cons_self).ne_clear.1 rfl
  · rintro rfl
    exact (h "none" List.mem_cons_self).ne_clear.2 rfl

/-- Normalization yields a value of the declared shape. -/
theorem yields_normalShape {shape : Shape} (hshape : field.shape = shape) :
    field.Yields shape.Admits (field.normalShape partition value) := by
  unfold normalShape
  rw [hshape]
  cases shape with
  | flag => exact yields_normalFlag.bind fun _ _ => trivial
  | toggle =>
      refine yields_normalFlag.bind fun on _ => ?_
      cases on with
      | true => exact Or.inl rfl
      | false => exact Or.inr rfl
  | int low high => exact yields_normalInt.bind fun _ hbounds => hbounds
  | text => exact yields_normalText.bind fun _ _ => trivial
  | choice choices =>
      refine yields_plainText.bind fun content _ => ?_
      split
      · rename_i hchosen
        exact List.contains_iff_mem.mp hchosen
      · exact yields_refuse _
  | reference =>
      refine yields_plainText.bind fun content _ => ?_
      split
      · exact Or.inl rfl
      · exact Or.inr (qualified_qualify partition content)
  | list => exact yields_normalList.bind fun _ hitems => hitems
  | referenceList =>
      refine yields_normalList.bind fun items _ => ?_
      have hqualified : ∀ item ∈ items.map (qualify partition), Qualified item := by
        intro item hitem
        obtain ⟨name, -, rfl⟩ := List.mem_map.mp hitem
        exact qualified_qualify partition name
      exact ⟨unmasked_of_qualified hqualified, hqualified⟩
  | keywordOrList keywords =>
      cases value with
      | text content =>
          dsimp only
          split
          · rename_i hkeyword
            exact List.contains_iff_mem.mp hkeyword
          · exact yields_refuse _
      | flag _ | int _ | list _ | nested _ => exact yields_normalList.bind fun _ hitems => hitems
  | nested =>
      cases value with
      | nested entries => trivial
      | flag _ | int _ | text _ | list _ => exact yields_refuse _

theorem yields_checkLength (field : Field) (value : Value) :
    field.Yields (fun result => result = value ∧ field.Fits value) (field.checkLength value) := by
  unfold checkLength
  split
  next limit content hlimit =>
    split
    · exact yields_refuse _
    · rename_i hlength
      refine ⟨rfl, fun other found hother hfound => ?_⟩
      obtain rfl := Option.some.inj (hlimit.symm.trans hother)
      obtain rfl := Value.text.inj hfound
      exact Nat.le_of_not_lt hlength
  next hfree =>
    exact ⟨rfl, fun limit content hlimit hvalue => absurd hvalue (hfree limit content hlimit)⟩

/-- Normalization yields values that the field admits, and refuses all other
inputs with a fault that names the field. -/
theorem yields_normalize : field.Yields field.Admits (field.normalize partition value) := by
  refine (yields_normalShape rfl).bind fun normal hnormal => ?_
  have hlength := yields_checkLength field normal
  cases hchecked : field.checkLength normal with
  | error fault => exact hlength.of_error hchecked
  | ok result =>
      obtain ⟨rfl, hfits⟩ := hlength.of_ok hchecked
      exact ⟨hnormal, hfits⟩

/-! ## Values in normal form -/

theorem normalList_of_unmasked {items : List String} (h : Unmasked items) :
    field.normalList (.list items) = .ok items :=
  congrArg Except.ok (clearedList_of_unmasked h)

/-- A value of the declared shape is its own normal form. -/
theorem normalShape_of_admits {shape : Shape} (hshape : field.shape = shape)
    (h : shape.Admits value) : field.normalShape partition value = .ok value := by
  unfold normalShape
  rw [hshape]
  cases shape with
  | flag =>
      cases value with
      | flag on => rfl
      | _ => exact h.elim
  | toggle =>
      cases value with
      | text word =>
          rcases h with rfl | rfl
          · rfl
          · rfl
      | _ => exact h.elim
  | int low high =>
      cases value with
      | int number =>
          obtain ⟨hlow, hhigh⟩ := h
          have hbounds : ¬(number < low ∨ high < number) := by omega
          simp [normalInt, hbounds, pure, Except.pure, bind, Except.bind]
      | _ => exact h.elim
  | text =>
      cases value with
      | text content => rfl
      | _ => exact h.elim
  | choice choices =>
      cases value with
      | text content =>
          have hchosen : choices.contains content = true := List.contains_iff_mem.mpr h
          exact if_pos hchosen
      | _ => exact h.elim
  | reference =>
      cases value with
      | text content =>
          rcases h with rfl | hqualified
          · rfl
          · have hkept := qualify_of_qualified hqualified partition
            simp [plainText, hqualified.ne_clear, hkept, pure, Except.pure, bind, Except.bind]
      | _ => exact h.elim
  | list =>
      cases value with
      | list items =>
          rw [normalList_of_unmasked h]
          rfl
      | _ => exact h.elim
  | referenceList =>
      cases value with
      | list items =>
          obtain ⟨hitems, hqualified⟩ := h
          have hkept : items.map (qualify partition) = items.map id :=
            List.map_congr_left fun item hitem =>
              qualify_of_qualified (hqualified item hitem) partition
          rw [normalList_of_unmasked hitems]
          exact congrArg (fun kept => Except.ok (Value.list kept)) (hkept.trans (List.map_id items))
      | _ => exact h.elim
  | keywordOrList keywords =>
      cases value with
      | text content =>
          have hkeyword : keywords.contains content = true := List.contains_iff_mem.mpr h
          exact if_pos hkeyword
      | list items =>
          dsimp only
          rw [normalList_of_unmasked h]
          rfl
      | _ => exact h.elim
  | nested =>
      cases value with
      | nested entries => rfl
      | _ => exact h.elim

theorem checkLength_of_fits (h : field.Fits value) : field.checkLength value = .ok value := by
  unfold checkLength
  split
  next limit content hlimit => exact if_neg (Nat.not_lt.mpr (h limit content hlimit rfl))
  next => rfl

/-- No synonym is found for a value in normal form. -/
theorem respell_of_admits (hspelled : field.Unambiguous) (h : field.shape.Admits value) :
    field.respell value = value := by
  cases value with
  | text content =>
      have hnone : field.synonyms.find? (fun pair => pair.1 == content) = none := by
        rw [List.find?_eq_none]
        intro pair hpair hcontent
        exact hspelled pair hpair (beq_iff_eq.mp hcontent ▸ h)
      simp [respell, hnone]
  | _ => rfl

/-- A value that a field admits is its own normal form, in every partition. -/
theorem normalize_of_admits (hspelled : field.Unambiguous) (h : field.Admits value) :
    field.normalize partition value = .ok value := by
  unfold normalize
  rw [respell_of_admits hspelled h.shaped, normalShape_of_admits rfl h.shaped]
  exact checkLength_of_fits h.fits

end Field
end DesiredState
