import DesiredState.Proofs.Json.Reader
import DesiredState.Proofs.WellFormed

/-!
# Maps and snapshots through JSON and back

What is written as JSON is read back as it was, with its entries in the same
order at every level: the form of a value is told from its document alone, a
text that looks like a number or a flag stays a text, and an empty list stays
apart from an empty map.

* `Value.depth`, `Attributes.depth`, `Snapshot.depth` — how many brackets are
  open at once in the text; a text of greater depth than the limit is not read;
* `Value.legible_toJson` — the document of a value has a value everywhere;
* `Value.WellFormed.ofJson?_toJson` — a value is read back from its document,
  by induction on the value;
* `read_back_of_written` — a map from its compact text, a snapshot from its
  indented one.

A snapshot is as deep as its deepest resource and one bracket more.  Nothing is
said of texts that are written in another way than by this library.
-/

namespace DesiredState

/-! ## Depth -/

namespace Value

mutual

/-- How many brackets stand around the innermost part of a value. -/
def depth : Value → Nat
  | .flag _ | .int _ | .text _ => 0
  | .list _ => 1
  | .nested entries => depthOfAll entries + 1

/-- The greatest depth of the values of some entries. -/
def depthOfAll : List (String × Value) → Nat
  | [] => 0
  | (_, value) :: rest => max value.depth (depthOfAll rest)

end

end Value

/-- How many brackets stand around the innermost part of a map. -/
def Attributes.depth (set : Attributes) : Nat :=
  Value.depthOfAll set.entries + 1

/-- The resources of a snapshot as nested maps. -/
def Snapshot.asEntries (snapshot : Snapshot) : List (String × Value) :=
  snapshot.resources.map fun (key, resource) => (key, .nested resource.entries)

/-- How many brackets stand around the innermost part of a snapshot. -/
def Snapshot.depth (snapshot : Snapshot) : Nat :=
  Value.depthOfAll snapshot.asEntries + 1

/-! ## Documents -/

namespace Value

theorem membersOf_eq_map (entries : List (String × Value)) :
    membersOf entries = entries.map fun entry => (entry.1, entry.2.toJson) := by
  induction entries with
  | nil => rfl
  | cons entry rest ih => rw [membersOf, ih, List.map_cons]

/-- The document of a value is `null` nowhere. -/
theorem toJson_ne_null (value : Value) : value.toJson ≠ .null := by
  cases value <;> nofun

mutual

/-- The document of a value is legible if the value is not too deep. -/
theorem legible_toJson : (value : Value) → {depth : Nat} → value.depth ≤ depth →
    Json.Legible depth value.toJson
  | .flag on, _, _ => .flag on
  | .int number, _, _ => .int number
  | .text content, _, _ => .text content
  | .list items, depth + 1, _ => by
      refine .array fun item hitem => ?_
      obtain ⟨content, -, rfl⟩ := List.mem_map.mp hitem
      exact .text content
  | .nested entries, depth + 1, h =>
      .object (legible_membersOf entries (Nat.le_of_succ_le_succ h))

theorem legible_membersOf : (entries : List (String × Value)) → {depth : Nat} →
    depthOfAll entries ≤ depth → ∀ member ∈ membersOf entries, Json.Legible depth member.2
  | [], _, _ => List.forall_mem_nil _
  | (_, value) :: rest, _, h =>
      List.forall_mem_cons.mpr
        ⟨legible_toJson value (Nat.le_trans (Nat.le_max_left _ _) h),
          legible_membersOf rest (Nat.le_trans (Nat.le_max_right _ _) h)⟩

end

/-! ## Back again -/

/-- The members of some entries are stored as those entries, if each value is read back. -/
theorem storeMembers_membersOf {entries : List (String × Value)}
    (h : ∀ entry ∈ entries, ofJson? entry.2.toJson = some entry.2)
    (base : List (String × Value)) :
    storeMembers base (membersOf entries) = some (Entries.merge base entries) := by
  induction entries generalizing base with
  | nil => rfl
  | cons entry rest ih =>
      obtain ⟨name, value⟩ := entry
      obtain ⟨hvalue, hrest⟩ := List.forall_mem_cons.mp h
      rw [membersOf, storeMembers.eq_3 _ _ _ _ value.toJson_ne_null, hvalue]
      exact ih hrest _

/-- Distinct entries are stored in their order. -/
theorem storeMembers_membersOf_of_distinct {entries : List (String × Value)}
    (hdistinct : Entries.Distinct entries)
    (h : ∀ entry ∈ entries, ofJson? entry.2.toJson = some entry.2) :
    storeMembers [] (membersOf entries) = some entries := by
  have hmerge : Entries.merge [] entries = entries := Entries.merge_eq_append hdistinct
  rw [storeMembers_membersOf h, hmerge]

/-- A well-formed value is read back from its document. -/
theorem WellFormed.ofJson?_toJson {value : Value} (h : value.WellFormed) :
    ofJson? value.toJson = some value := by
  induction h with
  | flag on => rfl
  | int hfits => simp [toJson, ofJson?, hfits]
  | text content => rfl
  | list items =>
      have hitems : (items.map Json.text).mapM stringOf? = some items := by
        induction items with
        | nil => rfl
        | cons item rest ih => simp [ih, stringOf?]
      simp [toJson, ofJson?, hitems]
  | nested hdistinct _ ih =>
      simp [toJson, ofJson?, storeMembers_membersOf_of_distinct hdistinct ih]

end Value

namespace Attributes

theorem legible_toJson {set : Attributes} {depth : Nat} (h : set.depth ≤ depth) :
    Json.Legible depth set.toJson :=
  Value.legible_toJson (.nested set.entries) h

/-- A well-formed map is read back from its document, entry by entry. -/
theorem WellFormed.ofJson?_toJson {set : Attributes} (h : set.WellFormed) :
    ofJson? set.toJson = some set := by
  have hstored := Value.storeMembers_membersOf_of_distinct h.distinct fun entry hentry =>
    (h.values entry hentry).ofJson?_toJson
  rw [toJson, ofJson?, hstored]
  rfl

end Attributes

namespace Snapshot

theorem toJson_eq (snapshot : Snapshot) :
    snapshot.toJson = .object (Value.membersOf snapshot.asEntries) := by
  rw [Value.membersOf_eq_map, asEntries, List.map_map]
  rfl

theorem legible_toJson {snapshot : Snapshot} {depth : Nat} (h : snapshot.depth ≤ depth) :
    Json.Legible depth snapshot.toJson := by
  rw [toJson_eq]
  exact Value.legible_toJson (.nested snapshot.asEntries) h

/-- A well-formed snapshot is read back from its document. -/
theorem WellFormed.ofJson?_toJson {snapshot : Snapshot} (h : snapshot.WellFormed)
    (hordered : snapshot.Ordered) : ofJson? snapshot.toJson = some snapshot := by
  have hmembers : ∀ resources : List (String × Attributes),
      (∀ entry ∈ resources, entry.2.WellFormed) →
        (resources.map fun (key, resource) => (key, resource.toJson)).mapM
            (fun (member : String × Json) =>
              (Attributes.ofJson? member.2).map fun resource => (member.1, resource)) =
          some resources := by
    intro resources hresources
    induction resources with
    | nil => rfl
    | cons entry rest ih =>
        obtain ⟨hentry, hrest⟩ := List.forall_mem_cons.mp hresources
        simp [hentry.ofJson?_toJson, ih hrest]
  rw [toJson, ofJson?, hmembers snapshot.resources h, Option.map_some,
    ofList_of_ordered hordered]

end Snapshot

/-! ## Texts -/

/-- A map that is not too deep is read back from its compact text, and a snapshot that is
not too deep from its indented text, in the same order at every level.  A snapshot has a
brace of its own, which counts towards its depth: the maps that it stores may be nested
one level less than a map that is read alone. -/
theorem read_back_of_written :
    (∀ set : Attributes, set.WellFormed → set.depth ≤ Json.depthLimit →
      (Json.read? set.toJson.compact).bind Attributes.ofJson? = some set) ∧
    (∀ snapshot : Snapshot, snapshot.WellFormed → snapshot.Ordered →
      snapshot.depth ≤ Json.depthLimit →
        Snapshot.ofText? snapshot.toJson.pretty = some snapshot) := by
  constructor
  · intro set hset hdepth
    rw [Json.read?_compact (Attributes.legible_toJson hdepth)]
    exact hset.ofJson?_toJson
  · intro snapshot hsnapshot hordered hdepth
    rw [Snapshot.ofText?, Json.read?_pretty (Snapshot.legible_toJson hdepth)]
    exact hsnapshot.ofJson?_toJson hordered

/-- A map whose values look like values of other forms, in an order of their own. -/
def Attributes.lookalikes : Attributes :=
  ⟨[("port", .text "80"), ("enabled", .text "true"), ("none", .list []),
    ("empty", .nested []), ("least", .int (-9223372036854775808)),
    ("a \"quoted\" name", .text "\\ \n \x01 é"),
    ("deep", .nested [("off", .flag false), ("list", .list ["null", ""]),
      ("deeper", .nested [("b", .int 0), ("a", .text "")])])]⟩

theorem lookalikes_read_back :
    (Attributes.lookalikes.WellFormed ∧ Attributes.lookalikes.depth ≤ Json.depthLimit ∧
      (Json.read? Attributes.lookalikes.toJson.compact).bind Attributes.ofJson? =
        some Attributes.lookalikes) ∧
    ∃ snapshot : Snapshot,
      snapshot.resources = [("/Common/a", .lookalikes), ("/Common/b", .empty)] ∧
      snapshot.WellFormed ∧ snapshot.Ordered ∧ snapshot.depth ≤ Json.depthLimit ∧
      Snapshot.ofText? snapshot.toJson.pretty = some snapshot := by
  have hset : Attributes.lookalikes.WellFormed := by decide
  have hsnapshot : (⟨[("/Common/a", .lookalikes), ("/Common/b", .empty)]⟩ : Snapshot).WellFormed :=
    by decide
  have hordered : (⟨[("/Common/a", .lookalikes), ("/Common/b", .empty)]⟩ : Snapshot).Ordered := by
    decide
  exact ⟨⟨hset, by decide, read_back_of_written.1 _ hset (by decide)⟩,
    _, rfl, hsnapshot, hordered, by decide,
    read_back_of_written.2 _ hsnapshot hordered (by decide)⟩

end DesiredState
