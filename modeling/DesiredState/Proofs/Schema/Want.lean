import DesiredState.Proofs.Schema.Normal

/-!
# Want maps are well typed

The code behind a schema relies on what is wanted without checking it again, so
the want map has to say as much as the schema declares.  `Schema.WellTyped`
spells this out: the caller's names and no others, in the order of declaration,
each with a value that its field admits.  `Schema.want_wellTyped` says that the
parameters are brought into such a map or are refused for one of their names.
Name by name the map has what the caller means, `Schema.get?_of_want`, also where
a schema declares a name twice.
-/

namespace DesiredState
namespace Schema

variable {schema : Schema} {params : Attributes} {partition : String}

/-- A want map with the caller's names in the order of declaration, and with
values that the fields admit. -/
structure WellTyped (schema : Schema) (params want : Attributes) : Prop where
  /-- The names are those that the caller gave, in the order of declaration. -/
  names_eq : want.names = schema.names.filter (· ∈ params.names)
  /-- Every name that the caller gave is declared. -/
  declared : ∀ name ∈ params.names, name ∈ schema.names
  /-- Every value is one that the field of its name admits. -/
  typed : ∀ entry ∈ want.entries, ∃ field ∈ schema.fields,
    field.name = entry.1 ∧ field.Admits entry.2

/-! ## One field -/

/-- A field is wanted under its name exactly where the caller gave that name. -/
theorem names_of_wanted {field : Field} {pair : Option (String × Value)}
    (h : wanted params partition field = .ok pair) :
    pair.map Prod.fst = if field.name ∈ params.names then some field.name else none := by
  unfold wanted at h
  split at h
  next hnone =>
    obtain rfl := Except.ok.inj h
    exact (if_neg (Attributes.get?_eq_none_iff.mp hnone)).symm
  next given hgiven =>
    obtain ⟨value, -, hpair⟩ := bind_eq_ok_iff.mp h
    obtain rfl := Except.ok.inj hpair
    exact (if_pos (Attributes.mem_names_iff.mpr ⟨given, hgiven⟩)).symm

/-- A field is wanted with a value that it admits. -/
theorem admits_of_wanted {field : Field} {entry : String × Value}
    (h : wanted params partition field = .ok (some entry)) :
    field.name = entry.1 ∧ field.Admits entry.2 := by
  unfold wanted at h
  split at h
  next => cases h
  next given hgiven =>
    obtain ⟨value, hvalue, hpair⟩ := bind_eq_ok_iff.mp h
    obtain rfl := Option.some.inj (Except.ok.inj hpair)
    exact ⟨rfl, Field.yields_normalize.of_ok hvalue⟩

/-- A field is refused for its name, which the caller gave. -/
theorem fault_of_wanted {field : Field} {fault : Fault}
    (h : wanted params partition field = .error fault) :
    field.name ∈ params.names ∧ ∃ detail, fault = .validation field.name detail := by
  unfold wanted at h
  split at h
  next => cases h
  next given hgiven =>
    refine ⟨Attributes.mem_names_iff.mpr ⟨given, hgiven⟩, ?_⟩
    cases hvalue : field.normalize partition given with
    | ok value =>
        rw [hvalue] at h
        cases h
    | error refusal =>
        rw [hvalue] at h
        obtain rfl := Except.error.inj h
        exact Field.yields_normalize.of_error hvalue

/-! ## All fields -/

/-- The names of the wanted pairs are those that the caller gave, in the order
of the fields. -/
theorem names_of_wantedPairs {fields : List Field} {pairs : List (Option (String × Value))}
    (h : fields.mapM (wanted params partition) = .ok pairs) :
    Entries.names (pairs.filterMap id) =
      (fields.map Field.name).filter (· ∈ params.names) := by
  induction fields generalizing pairs with
  | nil =>
      obtain rfl : [] = pairs := Except.ok.inj h
      rfl
  | cons field rest ih =>
      rw [List.mapM_cons] at h
      obtain ⟨pair, hpair, htail⟩ := bind_eq_ok_iff.mp h
      obtain ⟨later, hlater, hpairs⟩ := bind_eq_ok_iff.mp htail
      obtain rfl : pair :: later = pairs := Except.ok.inj hpairs
      have hname := names_of_wanted hpair
      rw [List.map_cons, List.filter_cons, ← ih hlater]
      by_cases hgiven : field.name ∈ params.names
      · rw [if_pos hgiven] at hname
        obtain ⟨entry, rfl, hentry⟩ := Option.map_eq_some_iff.mp hname
        simp [Entries.names, hgiven, hentry]
      · rw [if_neg hgiven] at hname
        obtain rfl := Option.map_eq_none_iff.mp hname
        simp [Entries.names, hgiven]

/-- With distinct names the wanted pairs are the entries of the want map. -/
theorem entries_of_want (hnames : schema.names.Nodup) {want : Attributes}
    (h : schema.want params partition = .ok want) :
    ∃ pairs, schema.fields.mapM (wanted params partition) = .ok pairs ∧
      want.entries = pairs.filterMap id := by
  obtain ⟨pairs, hpairs, rfl⟩ := pairs_of_want h
  have hdistinct : Entries.Distinct (pairs.filterMap id) := by
    unfold Entries.Distinct
    rw [names_of_wantedPairs hpairs]
    exact hnames.filter _
  exact ⟨pairs, hpairs, by rw [Attributes.ofList_of_distinct hdistinct]⟩

/-- Undeclared names are never accepted. -/
theorem declared_of_want {want : Attributes} (h : schema.want params partition = .ok want) :
    ∀ name ∈ params.names, name ∈ schema.names := by
  intro name hname
  unfold Schema.want at h
  split at h
  · cases h
  next hnone =>
    have hfield : ¬ (schema.field? name).isNone = true := List.find?_eq_none.mp hnone name hname
    obtain ⟨field, hfound⟩ := Option.ne_none_iff_exists'.mp (mt Option.isNone_iff_eq_none.mpr hfield)
    exact mem_names_of_field? hfound

/-- Refused parameters are refused for one of their names. -/
theorem fault_of_want {fault : Fault} (h : schema.want params partition = .error fault) :
    ∃ name ∈ params.names, ∃ detail, fault = .validation name detail := by
  unfold Schema.want at h
  split at h
  next unknown hunknown =>
    obtain rfl := Except.error.inj h
    exact ⟨unknown, List.mem_of_find?_eq_some hunknown, _, rfl⟩
  next =>
    cases hpairs : schema.fields.mapM (wanted params partition) with
    | ok pairs =>
        rw [hpairs] at h
        cases h
    | error refusal =>
        rw [hpairs] at h
        obtain rfl := Except.error.inj h
        obtain ⟨field, -, hfield⟩ := exists_of_mapM_eq_error hpairs
        obtain ⟨hgiven, detail, hdetail⟩ := fault_of_wanted hfield
        exact ⟨field.name, hgiven, detail, hdetail⟩

/-- Parameters are brought into a well-typed map, or they are refused with a
validation fault about one of their names. -/
theorem want_wellTyped (hnames : schema.names.Nodup) (params : Attributes) (partition : String) :
    (∀ want, schema.want params partition = .ok want → schema.WellTyped params want) ∧
      ∀ fault, schema.want params partition = .error fault →
        ∃ name ∈ params.names, ∃ detail, fault = .validation name detail := by
  refine ⟨fun want h => ?_, fun fault h => fault_of_want h⟩
  obtain ⟨pairs, hpairs, hentries⟩ := entries_of_want hnames h
  refine ⟨?_, declared_of_want h, fun entry hentry => ?_⟩
  · rw [Attributes.names, hentries]
    exact names_of_wantedPairs hpairs
  · -- every entry was made from one of the fields
    rw [hentries] at hentry
    obtain ⟨pair, hpair, rfl⟩ := List.mem_filterMap.mp hentry
    obtain ⟨field, hfield, hwanted⟩ := exists_of_mem_of_mapM_eq_ok hpairs hpair
    exact ⟨field, hfield, admits_of_wanted hwanted⟩

/-! ## Name by name -/

/-- The field that counts for a name: the last one that is declared under it. -/
def lastField? (schema : Schema) (name : String) : Option Field :=
  Entries.latest name (schema.fields.map fun field => (field.name, field))

/-- What the caller means by a name: the value that was given, in the normal
form of the field that counts. -/
def meaning? (schema : Schema) (params : Attributes) (partition name : String) :
    Option Value :=
  (schema.lastField? name).bind fun field =>
    (params.get? name).bind fun given => (field.normalize partition given).toOption

/-- A field whose name is given is wanted with the normal form of the given value. -/
theorem normalize_of_wanted {field : Field} {pair : Option (String × Value)} {given : Value}
    (h : wanted params partition field = .ok pair)
    (hgiven : params.get? field.name = some given) :
    ∃ value, field.normalize partition given = .ok value ∧ pair = some (field.name, value) := by
  rw [wanted, hgiven] at h
  obtain ⟨value, hvalue, hpair⟩ := bind_eq_ok_iff.mp h
  exact ⟨value, hvalue, (Except.ok.inj hpair).symm⟩

/-- What is wanted of a given name is told by the last field of that name. -/
theorem latest_wantedPairs {fields : List Field} {pairs : List (Option (String × Value))}
    (h : fields.mapM (wanted params partition) = .ok pairs) {name : String} {given : Value}
    (hgiven : params.get? name = some given) :
    Entries.latest name (pairs.filterMap id) =
      (Entries.latest name (fields.map fun field => (field.name, field))).bind fun field =>
        (field.normalize partition given).toOption := by
  induction fields generalizing pairs with
  | nil =>
      obtain rfl : [] = pairs := Except.ok.inj h
      rfl
  | cons field rest ih =>
      rw [List.mapM_cons] at h
      obtain ⟨pair, hpair, htail⟩ := bind_eq_ok_iff.mp h
      obtain ⟨later, hlater, hpairs⟩ := bind_eq_ok_iff.mp htail
      obtain rfl : pair :: later = pairs := Except.ok.inj hpairs
      rw [List.map_cons, Entries.latest]
      by_cases hname : field.name = name
      · subst hname
        obtain ⟨value, hvalue, rfl⟩ := normalize_of_wanted hpair hgiven
        have hcons : (some (field.name, value) :: later).filterMap id =
            (field.name, value) :: later.filterMap id := rfl
        rw [hcons, Entries.latest, ih hlater]
        cases hlast : Entries.latest field.name (rest.map fun field => (field.name, field)) with
        | none => simp [hvalue, Except.toOption]
        | some last =>
            obtain ⟨other, hother, hpair⟩ := List.mem_map.mp (Entries.mem_of_latest hlast)
            obtain ⟨hname, rfl⟩ := Prod.mk.inj hpair
            obtain ⟨result, -, hwanted⟩ := exists_of_mapM_eq_ok hlater hother
            obtain ⟨normal, hnormal, -⟩ := normalize_of_wanted hwanted (hname ▸ hgiven)
            simp [hnormal, Except.toOption]
      · -- the first field has nothing to say of the name
        have hskipped : Entries.latest name ((pair :: later).filterMap id) =
            Entries.latest name (later.filterMap id) := by
          cases pair with
          | none => rfl
          | some entry =>
              have hentry : entry.1 ≠ name := (admits_of_wanted hpair).1 ▸ hname
              change (Entries.latest name (later.filterMap id)).or _ = _
              rw [if_neg hentry, Option.or_none]
        rw [hskipped, if_neg hname, Option.or_none, ih hlater]

/-- A want map has under each name what the caller means by it. -/
theorem get?_of_want {want : Attributes} (h : schema.want params partition = .ok want)
    (name : String) : want.get? name = schema.meaning? params partition name := by
  obtain ⟨pairs, hpairs, rfl⟩ := pairs_of_want h
  rw [Attributes.get?_ofList, meaning?]
  cases hgiven : params.get? name with
  | none =>
      have hnone : name ∉ Entries.names (pairs.filterMap id) := by
        rw [names_of_wantedPairs hpairs]
        intro hmem
        exact Attributes.get?_eq_none_iff.mp hgiven (by simpa using (List.mem_filter.mp hmem).2)
      rw [Entries.latest_eq_none_iff.mpr hnone]
      simp
  | some given => exact latest_wantedPairs hpairs hgiven

/-! ## A sample -/

/-- A schema with a field of each shape. -/
def everyShape : Schema := ⟨[
  Field.flag "enabled", Field.toggle "echo", Field.port "port", (Field.text "note").atMost 4,
  Field.choice "mode" ["napt", "pba"], Field.reference "pool", Field.list "members",
  Field.referenceList "rules", { name := "allowed", shape := .keywordOrList ["all", "none"] },
  { name := "extra", shape := .nested }]⟩

/-- Parameters for the sample, in no order and in odd spellings. -/
def oddlySpelled : Attributes := ⟨[
  ("rules", .list ["log", "/Other/log"]), ("allowed", .list ["none"]), ("members", .text ""),
  ("port", .text " 80 "), ("note", .int 2024), ("echo", .flag true), ("pool", .text "none"),
  ("extra", .nested []), ("mode", .text "pba"), ("enabled", .text "off")]⟩

/-- What is wanted of the sample. -/
def wellSpelled : Attributes := ⟨[
  ("enabled", .flag false), ("echo", .text "enabled"), ("port", .int 80),
  ("note", .text "2024"), ("mode", .text "pba"), ("pool", .text ""), ("members", .list []),
  ("rules", .list ["/Tenant/log", "/Other/log"]), ("allowed", .list []), ("extra", .nested [])]⟩

/-- Parameters with a text that is too long for the sample. -/
def overlong : Attributes := ⟨[("mode", .text "pba"), ("note", .text "noted")]⟩

/-- The parameters of the sample give a well-typed map, unless a text is too
long. -/
theorem wellSpelled_wellTyped :
    (everyShape.want oddlySpelled "Tenant" = .ok wellSpelled ∧
        everyShape.WellTyped oddlySpelled wellSpelled) ∧
      ∃ fault, everyShape.want overlong "Tenant" = .error fault ∧
        ∃ name ∈ overlong.names, ∃ detail, fault = .validation name detail := by
  have hnames : everyShape.names.Nodup := by decide
  have hwant : everyShape.want oddlySpelled "Tenant" = .ok wellSpelled := rfl
  exact ⟨⟨hwant, (want_wellTyped hnames oddlySpelled "Tenant").1 _ hwant⟩,
    _, rfl, (want_wellTyped hnames overlong "Tenant").2 _ rfl⟩

end Schema
end DesiredState
