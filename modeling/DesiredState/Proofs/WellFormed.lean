import DesiredState.Json.Encoding
import DesiredState.Proofs.Except
import DesiredState.Proofs.Schema.Stored
import DesiredState.Proofs.Snapshot
import DesiredState.Proofs.Text

/-!
# Well-formed maps

A map that the program works on names nothing twice, at any depth, and its
integers have 64 bits.  Every snapshot that is read from a text is of this
form, whatever the text repeats.
-/

namespace DesiredState

/-- Integers have 64 bits, and nested maps name nothing twice. -/
inductive Value.WellFormed : Value → Prop
  | flag (on : Bool) : WellFormed (.flag on)
  | int {number : Int} (hfits : Text.fitsInt64 number = true) : WellFormed (.int number)
  | text (content : String) : WellFormed (.text content)
  | list (items : List String) : WellFormed (.list items)
  | nested {entries : List (String × Value)} (hdistinct : Entries.Distinct entries)
      (hvalues : ∀ entry ∈ entries, WellFormed entry.2) : WellFormed (.nested entries)

/-- A map that names nothing twice and has well-formed values. -/
structure Attributes.WellFormed (set : Attributes) : Prop where
  /-- No name is stored twice. -/
  distinct : set.Distinct
  /-- The values are well-formed. -/
  values : ∀ entry ∈ set.entries, entry.2.WellFormed

/-- A snapshot of well-formed resources. -/
def Snapshot.WellFormed (snapshot : Snapshot) : Prop :=
  ∀ entry ∈ snapshot.resources, entry.2.WellFormed

/-! ## Deciding -/

instance {α : Type} (entries : List (String × α)) : Decidable (Entries.Distinct entries) :=
  inferInstanceAs (Decidable (Entries.names entries).Nodup)

instance (set : Attributes) : Decidable set.Distinct :=
  inferInstanceAs (Decidable (Entries.Distinct set.entries))

mutual

/-- Whether a value is well-formed, by recursion into nested maps. -/
def Value.decideWellFormed : (value : Value) → Decidable value.WellFormed
  | .flag on => isTrue (.flag on)
  | .int number =>
      if h : Text.fitsInt64 number = true then isTrue (.int h)
      else isFalse fun | .int hfits => h hfits
  | .text content => isTrue (.text content)
  | .list items => isTrue (.list items)
  | .nested entries =>
      match Value.decideAllWellFormed entries with
      | isTrue hvalues =>
          if h : Entries.Distinct entries then isTrue (.nested h hvalues)
          else isFalse fun | .nested hdistinct _ => h hdistinct
      | isFalse h => isFalse fun | .nested _ hvalues => h hvalues

/-- Whether all values of a list of entries are well-formed. -/
def Value.decideAllWellFormed : (entries : List (String × Value)) →
    Decidable (∀ entry ∈ entries, entry.2.WellFormed)
  | [] => isTrue (List.forall_mem_nil _)
  | (_, value) :: rest =>
      match Value.decideWellFormed value, Value.decideAllWellFormed rest with
      | isTrue hvalue, isTrue hrest => isTrue (List.forall_mem_cons.mpr ⟨hvalue, hrest⟩)
      | isFalse h, _ => isFalse fun hall => h (List.forall_mem_cons.mp hall).1
      | _, isFalse h => isFalse fun hall => h (List.forall_mem_cons.mp hall).2

end

instance (value : Value) : Decidable value.WellFormed :=
  value.decideWellFormed

instance (set : Attributes) : Decidable set.WellFormed :=
  decidable_of_iff (Entries.Distinct set.entries ∧ ∀ entry ∈ set.entries, entry.2.WellFormed)
    ⟨fun h => ⟨h.1, h.2⟩, fun h => ⟨h.distinct, h.values⟩⟩

instance (snapshot : Snapshot) : Decidable snapshot.WellFormed :=
  inferInstanceAs (Decidable (∀ entry ∈ snapshot.resources, entry.2.WellFormed))

/-! ## Sameness -/

/-- Entries are bound to the values that are found under their names. -/
theorem Value.boundIn_of_lookup {entries other : List (String × Value)}
    (hself : ∀ entry ∈ entries, entry.2.same entry.2 = true)
    (hfound : ∀ entry ∈ entries, other.lookup entry.1 = some entry.2) :
    boundIn entries other = true := by
  induction entries with
  | nil => rfl
  | cons entry rest ih =>
      obtain ⟨name, value⟩ := entry
      obtain ⟨hvalue, hvalues⟩ := List.forall_mem_cons.mp hself
      obtain ⟨hname, hnames⟩ := List.forall_mem_cons.mp hfound
      simp only [boundIn, hname, hvalue, ih hvalues hnames, Bool.and_self]

/-- A well-formed value is the same as itself. -/
theorem Value.WellFormed.same_self {value : Value} (h : value.WellFormed) :
    value.same value = true := by
  induction h with
  | flag on => simp [same]
  | int hfits => simp [same]
  | text content => simp [same]
  | list items => simp [same]
  | nested hdistinct _ ih =>
      have hbound := boundIn_of_lookup ih fun _ hentry =>
        Entries.lookup_of_mem hdistinct hentry
      simp [same, hbound]

/-! ## Look-up -/

theorem Attributes.WellFormed.get? {set : Attributes} (h : set.WellFormed) {name : String}
    {value : Value} (hvalue : set.get? name = some value) : value.WellFormed :=
  h.values _ (Entries.mem_of_lookup hvalue)

theorem Snapshot.WellFormed.get? {snapshot : Snapshot} (h : snapshot.WellFormed)
    {key : String} {raw : Attributes} (hraw : snapshot.get? key = some raw) :
    raw.WellFormed :=
  h _ (Entries.mem_of_lookup hraw)

/-- A well-formed value is coerced to integers of 64 bits only. -/
theorem Field.fits_of_coerce {field : Field} {value : Value} (h : value.WellFormed)
    {number : Int} (hnumber : field.coerce value = .int number) :
    Text.fitsInt64 number = true := by
  have hkept : value = .int number → Text.fitsInt64 number = true := by
    rintro rfl
    cases h with
    | int hfits => exact hfits
  unfold coerce at hnumber
  split at hnumber
  · rename_i content _
    cases hflag : flagOfText? content <;> simp [hflag] at hnumber
  · cases hnumber
  · rename_i content _
    cases hflag : flagOfText? content <;> simp [hflag] at hnumber
  · rename_i low high content _
    cases hread : Text.readInt64 (Text.trim content) with
    | none => simp [hread] at hnumber
    | some found =>
        obtain rfl : found = number := by simpa [hread] using hnumber
        exact Text.fitsInt64_of_readInt64 hread
  · cases hnumber
  · cases hnumber
  · exact hkept hnumber

/-- The view of a well-formed resource has integers of 64 bits only. -/
theorem Schema.Plain.fits_of_get?_ofWire {schema : Schema} {name : String}
    (h : schema.Plain name) {raw : Attributes} (hraw : raw.WellFormed) {number : Int}
    (hnumber : (schema.ofWire raw).get? name = some (.int number)) :
    Text.fitsInt64 number = true := by
  rw [h.get?_ofWire hraw.distinct] at hnumber
  obtain ⟨value, hvalue, hcoerced⟩ := Option.map_eq_some_iff.mp hnumber
  have hwell := hraw.get? hvalue
  unfold coerced at hcoerced
  cases hfield : schema.field? name with
  | some field => exact Field.fits_of_coerce hwell (by simpa [hfield] using hcoerced)
  | none =>
      obtain rfl : value = .int number := by simpa [hfield] using hcoerced
      cases hwell with
      | int hfits => exact hfits

/-! ## Reading -/

namespace Value

/-- Well-formed values under distinct names. -/
def WellFormedEntries (entries : List (String × Value)) : Prop :=
  Entries.Distinct entries ∧ ∀ entry ∈ entries, entry.2.WellFormed

theorem WellFormedEntries.put {entries : List (String × Value)}
    (h : WellFormedEntries entries) (name : String) {value : Value}
    (hvalue : value.WellFormed) : WellFormedEntries (Entries.put name value entries) := by
  refine ⟨h.1.put name value, fun entry hentry => ?_⟩
  rcases Entries.mem_of_mem_put hentry with rfl | hold
  · exact hvalue
  · exact h.2 entry hold

theorem WellFormedEntries.merge {base changes : List (String × Value)}
    (h : WellFormedEntries base) (hchanges : ∀ change ∈ changes, change.2.WellFormed) :
    WellFormedEntries (Entries.merge base changes) := by
  induction changes generalizing base with
  | nil => exact h
  | cons change rest ih =>
      obtain ⟨hchange, hrest⟩ := List.forall_mem_cons.mp hchanges
      exact ih (h.put change.1 hchange) hrest

/-- A member is skipped, or its value is stored. -/
theorem storeMembers_cons {entries result : List (String × Value)} {name : String}
    {document : Json} {rest : List (String × Json)}
    (h : storeMembers entries ((name, document) :: rest) = some result) :
    storeMembers entries rest = some result ∨
      ∃ value, ofJson? document = some value ∧
        storeMembers (Entries.put name value entries) rest = some result := by
  by_cases hnull : document = .null
  · subst hnull
    exact Or.inl h
  · rw [storeMembers.eq_3 _ _ _ _ hnull] at h
    cases hvalue : ofJson? document with
    | some value =>
        rw [hvalue] at h
        exact Or.inr ⟨value, rfl, h⟩
    | none =>
        rw [hvalue] at h
        cases h

mutual

/-- What is read from a document is well-formed. -/
theorem wellFormed_of_ofJson? : (document : Json) → {value : Value} →
    ofJson? document = some value → value.WellFormed
  | .null, _, h => nomatch h
  | .flag on, _, h => by
      obtain rfl := Option.some.inj h
      exact .flag on
  | .int number, _, h => by
      unfold ofJson? at h
      split at h
      · rename_i hfits
        obtain rfl := Option.some.inj h
        exact .int hfits
      · cases h
  | .real _, _, h => nomatch h
  | .text content, _, h => by
      obtain rfl := Option.some.inj h
      exact .text content
  | .array items, _, h => by
      obtain ⟨texts, -, rfl⟩ := Option.map_eq_some_iff.mp h
      exact .list texts
  | .object members, _, h => by
      obtain ⟨entries, hentries, rfl⟩ := Option.map_eq_some_iff.mp h
      have hempty : WellFormedEntries [] := ⟨List.nodup_nil, by simp⟩
      obtain ⟨hdistinct, hvalues⟩ := wellFormed_of_storeMembers members hempty hentries
      exact .nested hdistinct hvalues
  | .unreadable, _, h => nomatch h

/-- Members are stored over well-formed entries to give well-formed ones. -/
theorem wellFormed_of_storeMembers : (members : List (String × Json)) →
    {entries result : List (String × Value)} → WellFormedEntries entries →
      storeMembers entries members = some result → WellFormedEntries result
  | [], _, _, hentries, h => by
      obtain rfl := Option.some.inj h
      exact hentries
  | (name, document) :: rest, _, _, hentries, h => by
      rcases storeMembers_cons h with hskipped | ⟨value, hvalue, hstored⟩
      · exact wellFormed_of_storeMembers rest hentries hskipped
      · have hwell := wellFormed_of_ofJson? document hvalue
        exact wellFormed_of_storeMembers rest (hentries.put name hwell) hstored

end

end Value

theorem Attributes.wellFormed_of_ofJson? {document : Json} {set : Attributes}
    (h : ofJson? document = some set) : set.WellFormed := by
  unfold ofJson? at h
  split at h
  · rename_i members
    obtain ⟨entries, hentries, rfl⟩ := Option.map_eq_some_iff.mp h
    have hempty : Value.WellFormedEntries [] := ⟨List.nodup_nil, by simp⟩
    obtain ⟨hdistinct, hvalues⟩ := Value.wellFormed_of_storeMembers members hempty hentries
    exact ⟨hdistinct, hvalues⟩
  · cases h

namespace Snapshot

theorem WellFormed.insert {snapshot : Snapshot} (h : snapshot.WellFormed) (key : String)
    {resource : Attributes} (hresource : resource.WellFormed) :
    (snapshot.insert key resource).WellFormed := by
  intro entry hentry
  rcases mem_of_mem_place hentry with rfl | hold
  · exact hresource
  · exact h entry hold

theorem wellFormed_ofList {resources : List (String × Attributes)}
    (h : ∀ entry ∈ resources, entry.2.WellFormed) : (ofList resources).WellFormed := by
  have hfold : ∀ snapshot : Snapshot, snapshot.WellFormed →
      (resources.foldl (fun snapshot entry => snapshot.insert entry.1 entry.2)
        snapshot).WellFormed := by
    induction resources with
    | nil => exact fun _ hsnapshot => hsnapshot
    | cons first rest ih =>
        intro snapshot hsnapshot
        exact ih (fun entry hentry => h entry (List.mem_cons_of_mem _ hentry)) _
          (hsnapshot.insert _ (h first List.mem_cons_self))
  exact hfold empty (by simp [WellFormed, empty])

/-- A snapshot that is read from a text is well-formed. -/
theorem wellFormed_of_ofText? {source : String} {snapshot : Snapshot}
    (h : ofText? source = some snapshot) : snapshot.WellFormed := by
  obtain ⟨document, -, hdocument⟩ := Option.bind_eq_some_iff.mp h
  unfold ofJson? at hdocument
  split at hdocument
  · rename_i members
    obtain ⟨resources, hresources, rfl⟩ := Option.map_eq_some_iff.mp hdocument
    refine wellFormed_ofList fun entry hentry => ?_
    obtain ⟨member, -, hmember⟩ := exists_of_mem_mapM hresources hentry
    obtain ⟨resource, hresource, rfl⟩ := Option.map_eq_some_iff.mp hmember
    exact Attributes.wellFormed_of_ofJson? hresource
  · cases hdocument

end Snapshot
end DesiredState
