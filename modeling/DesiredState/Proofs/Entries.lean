import DesiredState.Entries

/-!
# Laws of named entries

Erasing, merging and distinctness for lists of named entries.  A merge keeps
the last payload that is stored under a name, so its look-up law is stated for
`latest`; for distinct names `latest` is plain look-up.
-/

namespace DesiredState
namespace Entries

variable {α β : Type}

/-- No name occurs twice. -/
def Distinct (entries : List (String × α)) : Prop :=
  (names entries).Nodup

/-- The payload that comes last under a name. -/
def latest (name : String) : List (String × α) → Option α
  | [] => none
  | (known, payload) :: rest =>
      (latest name rest).or (if known = name then some payload else none)

/-! ## Look-up -/

/-- Among items with different keys, each is found by its key. -/
theorem find?_of_mem {key : β → String} {items : List β} (hkeys : (items.map key).Nodup)
    {item : β} (h : item ∈ items) :
    (items.find? fun other => key other == key item) = some item := by
  induction items with
  | nil => cases h
  | cons first rest ih =>
      obtain ⟨hfresh, hrest⟩ := List.nodup_cons.mp hkeys
      rcases List.mem_cons.mp h with rfl | hlater
      · simp
      · have hne : (key first == key item) = false := by
          rw [beq_eq_false_iff_ne]
          intro heq
          exact hfresh (heq ▸ List.mem_map_of_mem hlater)
        rw [List.find?_cons, hne]
        exact ih hrest hlater

theorem lookup_cons_of_ne {name known : String} (h : name ≠ known) (payload : α)
    (rest : List (String × α)) :
    ((known, payload) :: rest).lookup name = rest.lookup name := by
  have hne : (name == known) = false := by simp [h]
  simp [List.lookup_cons, hne]

theorem mem_of_lookup {name : String} {payload : α} {entries : List (String × α)}
    (h : entries.lookup name = some payload) : (name, payload) ∈ entries := by
  induction entries with
  | nil => simp at h
  | cons entry rest ih =>
      obtain ⟨known, old⟩ := entry
      by_cases hk : name = known
      · subst hk
        simp only [List.lookup_cons_self, Option.some.injEq] at h
        rw [h]
        exact List.mem_cons_self
      · rw [lookup_cons_of_ne hk] at h
        exact List.mem_cons_of_mem _ (ih h)

theorem mem_names_of_mem {name : String} {payload : α} {entries : List (String × α)}
    (h : (name, payload) ∈ entries) : name ∈ names entries :=
  List.mem_map_of_mem h

/-- Among distinct names a payload is found under its name. -/
theorem lookup_of_mem {entries : List (String × α)} (hdistinct : Distinct entries)
    {name : String} {payload : α} (h : (name, payload) ∈ entries) :
    entries.lookup name = some payload := by
  induction entries with
  | nil => cases h
  | cons entry rest ih =>
      obtain ⟨known, old⟩ := entry
      obtain ⟨hfresh, hrest⟩ := List.nodup_cons.mp hdistinct
      rcases List.mem_cons.mp h with heq | hlater
      · obtain ⟨rfl, rfl⟩ := Prod.mk.inj heq
        exact List.lookup_cons_self
      · have hne : name ≠ known := by
          rintro rfl
          exact hfresh (mem_names_of_mem hlater)
        rw [lookup_cons_of_ne hne]
        exact ih hrest hlater

/-- A name is found exactly when it is one of the names. -/
theorem lookup_eq_none_iff {name : String} {entries : List (String × α)} :
    entries.lookup name = none ↔ name ∉ names entries := by
  induction entries with
  | nil => simp [names]
  | cons entry rest ih =>
      obtain ⟨known, old⟩ := entry
      by_cases hk : name = known
      · subst hk
        simp [names]
      · rw [lookup_cons_of_ne hk, ih]
        simp [names, hk]

theorem exists_of_mem_names {name : String} {entries : List (String × α)}
    (h : name ∈ names entries) : ∃ payload, entries.lookup name = some payload :=
  Option.ne_none_iff_exists'.mp fun hnone => lookup_eq_none_iff.mp hnone h

/-- Distinct names are found in whatever order they stand. -/
theorem lookup_of_perm {entries other : List (String × α)} (hdistinct : Distinct entries)
    (hperm : entries.Perm other) (name : String) :
    other.lookup name = entries.lookup name := by
  have hnames : (names entries).Perm (names other) := hperm.map Prod.fst
  cases hfound : entries.lookup name with
  | none => exact lookup_eq_none_iff.mpr (mt hnames.mem_iff.mpr (lookup_eq_none_iff.mp hfound))
  | some payload =>
      exact lookup_of_mem (hnames.nodup_iff.mp hdistinct)
        (hperm.mem_iff.mp (mem_of_lookup hfound))

theorem mem_of_latest {name : String} {payload : α} {entries : List (String × α)}
    (h : latest name entries = some payload) : (name, payload) ∈ entries := by
  induction entries with
  | nil => simp [latest] at h
  | cons entry rest ih =>
      obtain ⟨known, old⟩ := entry
      rw [latest, Option.or_eq_some_iff] at h
      rcases h with hlater | ⟨-, hhere⟩
      · exact List.mem_cons_of_mem _ (ih hlater)
      · by_cases hk : known = name
        · rw [if_pos hk, Option.some.injEq] at hhere
          rw [hk, hhere]
          exact List.mem_cons_self
        · simp [hk] at hhere

/-- Of entries that a function gives for some names, each name has the one that
it is given. -/
theorem latest_filterMap (listed : List String) (payload : String → Option α)
    (name : String) :
    latest name (listed.filterMap fun other => (payload other).map fun found => (other, found)) =
      if name ∈ listed then payload name else none := by
  induction listed with
  | nil => rfl
  | cons first rest ih =>
      rw [List.filterMap_cons]
      by_cases hfirst : first = name
      · subst hfirst
        cases hpayload : payload first with
        | none => simp [hpayload, ih]
        | some found =>
            by_cases hrest : first ∈ rest
            · simp [latest, hpayload, ih, hrest]
            · simp [latest, ih, hrest]
      · have hmem : name ∈ first :: rest ↔ name ∈ rest := by
          rw [List.mem_cons, or_iff_right (Ne.symm hfirst)]
        cases hpayload : payload first with
        | none => simp [ih, hmem]
        | some found => simp [latest, ih, hmem, hfirst]

theorem latest_eq_none_iff {name : String} {entries : List (String × α)} :
    latest name entries = none ↔ name ∉ names entries := by
  induction entries with
  | nil => simp [latest, names]
  | cons entry rest ih =>
      obtain ⟨known, old⟩ := entry
      rw [latest, Option.or_eq_none_iff, ih]
      by_cases hk : known = name
      · simp [names, hk]
      · simp [names, hk, Ne.symm hk]

/-- Among distinct names the last payload is the only one. -/
theorem latest_eq_lookup {entries : List (String × α)} (hdistinct : Distinct entries)
    (name : String) : latest name entries = entries.lookup name := by
  induction entries with
  | nil => rfl
  | cons entry rest ih =>
      obtain ⟨known, old⟩ := entry
      obtain ⟨hfresh, hrest⟩ := List.nodup_cons.mp hdistinct
      by_cases hk : known = name
      · subst hk
        have hnone : rest.lookup known = none := lookup_eq_none_iff.mpr hfresh
        simp [latest, ih hrest, hnone]
      · rw [lookup_cons_of_ne (Ne.symm hk), ← ih hrest]
        simp [latest, hk]

/-! ## Erasing -/

theorem lookup_erase_of_ne {name other : String} (h : other ≠ name)
    (entries : List (String × α)) :
    (erase name entries).lookup other = entries.lookup other := by
  induction entries with
  | nil => rfl
  | cons entry rest ih =>
      obtain ⟨known, old⟩ := entry
      by_cases hk : known = name
      · subst hk
        simp [erase, lookup_cons_of_ne h]
      · by_cases ho : other = known
        · subst ho
          simp [erase, hk]
        · simp [erase, hk, lookup_cons_of_ne ho, ih]

theorem names_erase (name : String) (entries : List (String × α)) :
    names (erase name entries) = (names entries).erase name := by
  induction entries with
  | nil => rfl
  | cons entry rest ih =>
      obtain ⟨known, old⟩ := entry
      by_cases hk : known = name
      · subst hk
        simp [erase, names]
      · simp only [names] at ih
        simp [erase, hk, names, ih]

/-- Erasing drops an entry and keeps the others in order. -/
theorem erase_sublist (name : String) (entries : List (String × α)) :
    (erase name entries).Sublist entries := by
  induction entries with
  | nil => exact List.Sublist.refl _
  | cons entry rest ih =>
      rw [erase]
      split
      · exact List.sublist_cons_self entry rest
      · exact ih.cons_cons entry

theorem Distinct.erase {entries : List (String × α)} (h : Distinct entries)
    (name : String) : Distinct (Entries.erase name entries) := by
  unfold Distinct
  rw [names_erase]
  exact List.Nodup.erase name h

/-- Of distinct names, an erased one is gone. -/
theorem lookup_erase_self {entries : List (String × α)} (h : Distinct entries)
    (name : String) : (erase name entries).lookup name = none := by
  rw [lookup_eq_none_iff, names_erase]
  exact List.Nodup.not_mem_erase h

/-! ## Merging -/

theorem Distinct.put {entries : List (String × α)} (h : Distinct entries)
    (name : String) (payload : α) : Distinct (Entries.put name payload entries) := by
  unfold Distinct
  rw [names_put]
  split
  · exact h
  · rename_i hfresh
    exact List.nodup_append.mpr ⟨h, by simp, by
      intro known hknown other hother
      rw [List.mem_singleton.mp hother]
      rintro rfl
      exact hfresh hknown⟩

theorem mem_of_mem_put {name : String} {payload : α} {entry : String × α}
    {entries : List (String × α)} (h : entry ∈ put name payload entries) :
    entry = (name, payload) ∨ entry ∈ entries := by
  induction entries with
  | nil => exact Or.inl (List.mem_singleton.mp h)
  | cons first rest ih =>
      obtain ⟨known, old⟩ := first
      by_cases hk : known = name
      · subst hk
        rw [put, if_pos rfl] at h
        rcases List.mem_cons.mp h with heq | hrest
        · exact Or.inl heq
        · exact Or.inr (List.mem_cons_of_mem _ hrest)
      · rw [put, if_neg hk] at h
        rcases List.mem_cons.mp h with heq | hrest
        · exact Or.inr (List.mem_cons.mpr (Or.inl heq))
        · exact (ih hrest).imp_right (List.mem_cons_of_mem _)

/-- Setting a name to what it is set to makes no difference. -/
theorem put_of_lookup {name : String} {payload : α} {entries : List (String × α)}
    (h : entries.lookup name = some payload) : put name payload entries = entries := by
  induction entries with
  | nil => cases h
  | cons entry rest ih =>
      obtain ⟨known, old⟩ := entry
      by_cases hknown : known = name
      · subst hknown
        rw [List.lookup_cons_self] at h
        rw [put, if_pos rfl, Option.some.inj h]
      · rw [lookup_cons_of_ne (Ne.symm hknown)] at h
        rw [put, if_neg hknown, ih h]

theorem merge_cons (base : List (String × α)) (name : String) (payload : α)
    (rest : List (String × α)) :
    merge base ((name, payload) :: rest) = merge (put name payload base) rest :=
  rfl

theorem merge_append (base first second : List (String × α)) :
    merge base (first ++ second) = merge (merge base first) second :=
  List.foldl_append

theorem Distinct.merge {base : List (String × α)} (h : Distinct base)
    (changes : List (String × α)) : Distinct (Entries.merge base changes) := by
  induction changes generalizing base with
  | nil => exact h
  | cons change rest ih => exact ih (h.put change.1 change.2)

theorem lookup_put (name other : String) (payload : α) (entries : List (String × α)) :
    (put name payload entries).lookup other =
      if name = other then some payload else entries.lookup other := by
  by_cases h : name = other
  · subst h
    simp
  · rw [if_neg h, lookup_put_of_ne (Ne.symm h)]

/-- A merge keeps what comes last under a name, else what was there. -/
theorem lookup_merge (base changes : List (String × α)) (name : String) :
    (merge base changes).lookup name =
      (latest name changes).or (base.lookup name) := by
  induction changes generalizing base with
  | nil => simp [merge, latest]
  | cons change rest ih =>
      obtain ⟨known, payload⟩ := change
      rw [merge_cons, ih, lookup_put, latest, Option.or_assoc]
      by_cases hk : known = name
      · simp [hk]
      · simp [hk]

/-- The names of a merge are those of both sides. -/
theorem mem_names_merge {base changes : List (String × α)} {name : String} :
    name ∈ names (merge base changes) ↔ name ∈ names base ∨ name ∈ names changes := by
  induction changes generalizing base with
  | nil => simp [merge, names]
  | cons change rest ih =>
      obtain ⟨known, payload⟩ := change
      rw [merge_cons, ih, names_put]
      by_cases hk : known ∈ names base
      · rw [if_pos hk]
        simp only [names, List.map_cons, List.mem_cons] at hk ⊢
        constructor
        · rintro (h | h)
          · exact Or.inl h
          · exact Or.inr (Or.inr h)
        · rintro (h | rfl | h)
          · exact Or.inl h
          · exact Or.inl hk
          · exact Or.inr h
      · rw [if_neg hk]
        simp only [names, List.map_cons, List.mem_cons, List.mem_append,
          List.not_mem_nil, or_false]
        exact or_assoc

/-- A relation holds of the names of a merge, in their order, if it holds of the
names of the base, of the new names, and of each of the former with each of the
latter. -/
theorem pairwise_names_merge {before : String → String → Prop}
    {base changes : List (String × α)} (hbase : (names base).Pairwise before)
    (hacross : ∀ old ∈ names base, ∀ new ∈ names changes, new ∉ names base → before old new)
    (hchanges : (names changes).Pairwise fun first second =>
      first ≠ second → second ∉ names base → before first second) :
    (names (merge base changes)).Pairwise before := by
  induction changes generalizing base with
  | nil => exact hbase
  | cons change rest ih =>
      obtain ⟨known, payload⟩ := change
      obtain ⟨hfirst, hrest⟩ := List.pairwise_cons.mp hchanges
      have hlater : ∀ new ∈ names rest, new ∈ names ((known, payload) :: rest) :=
        fun new hnew => List.mem_cons_of_mem known hnew
      rw [merge_cons]
      by_cases hknown : known ∈ names base
      · have hput : names (put known payload base) = names base := by
          rw [names_put, if_pos hknown]
        refine ih (hput ▸ hbase) ?_ (hput ▸ hrest)
        rw [hput]
        exact fun old hold new hnew => hacross old hold new (hlater new hnew)
      · have hput : names (put known payload base) = names base ++ [known] := by
          rw [names_put, if_neg hknown]
        refine ih ?_ ?_ ?_
        · rw [hput, List.pairwise_append]
          refine ⟨hbase, List.pairwise_singleton .., fun old hold new hnew => ?_⟩
          obtain rfl := List.mem_singleton.mp hnew
          exact hacross old hold new List.mem_cons_self hknown
        · rw [hput]
          intro old hold new hnew hfresh
          rw [List.mem_append, List.mem_singleton, not_or] at hfresh
          rcases List.mem_append.mp hold with hbefore | hlast
          · exact hacross old hbefore new (hlater new hnew) hfresh.1
          · obtain rfl := List.mem_singleton.mp hlast
            exact hfirst new hnew (Ne.symm hfresh.2) hfresh.1
        · rw [hput]
          exact hrest.imp fun hlate hne hfresh =>
            hlate hne fun hmem => hfresh (List.mem_append_left _ hmem)

/-- Merging distinct new names only appends them. -/
theorem merge_eq_append {base changes : List (String × α)}
    (h : Distinct (base ++ changes)) : merge base changes = base ++ changes := by
  induction changes generalizing base with
  | nil => simp [merge]
  | cons change rest ih =>
      obtain ⟨known, payload⟩ := change
      have hfresh : known ∉ names base := by
        intro hmem
        have hsplit := List.nodup_append.mp (by simpa [Distinct, names] using h)
        exact hsplit.2.2 known hmem known List.mem_cons_self rfl
      have hput : put known payload base = base ++ [(known, payload)] := by
        clear h ih
        induction base with
        | nil => rfl
        | cons entry tail ih =>
            obtain ⟨other, old⟩ := entry
            simp only [names, List.map_cons, List.mem_cons, not_or] at hfresh
            simp [put, Ne.symm hfresh.1, ih hfresh.2]
      rw [merge_cons, hput, ih (by simpa using h)]
      simp

/-! ## Merging twice -/

/-- Of two payloads that are stored under a name the second one stays. -/
theorem put_put (name : String) (first second : α) (entries : List (String × α)) :
    put name second (put name first entries) = put name second entries := by
  induction entries with
  | nil => simp [put]
  | cons entry rest ih =>
      obtain ⟨known, old⟩ := entry
      by_cases hknown : known = name
      · simp [put, hknown]
      · simp [put, hknown, ih]

/-- A name that has its place can be stored before another one as well as after it. -/
theorem put_comm {name other : String} (hne : other ≠ name) (payload value : α)
    {entries : List (String × α)} (hmem : name ∈ names entries) :
    put name payload (put other value entries) = put other value (put name payload entries) := by
  induction entries with
  | nil => cases hmem
  | cons entry rest ih =>
      obtain ⟨known, old⟩ := entry
      by_cases hname : known = name
      · subst hname
        simp [put, Ne.symm hne]
      · by_cases hother : known = other
        · subst hother
          simp [put, hname]
        · have hrest : name ∈ names rest := (List.mem_cons.mp hmem).resolve_left (Ne.symm hname)
          simp [put, hname, hother, ih hrest]

/-- Storing under a name that has its place and is not merged over can wait. -/
theorem put_merge {name : String} (payload : α) {base changes : List (String × α)}
    (hfresh : name ∉ names changes) (hmem : name ∈ names base) :
    put name payload (merge base changes) = merge (put name payload base) changes := by
  induction changes generalizing base with
  | nil => rfl
  | cons change rest ih =>
      obtain ⟨known, value⟩ := change
      obtain ⟨hne, hrest⟩ := not_or.mp (mt List.mem_cons.mpr hfresh)
      have hkept : name ∈ names (put known value base) := by
        rw [names_put]
        split
        · exact hmem
        · exact List.mem_append_left _ hmem
      rw [merge_cons, merge_cons, ih hrest hkept, put_comm (Ne.symm hne) payload value hmem]

/-- What is stored over changes is stored over a merge with them. -/
theorem merge_put {changes : List (String × α)} (h : Distinct changes)
    (base : List (String × α)) (name : String) (payload : α) :
    merge base (put name payload changes) = put name payload (merge base changes) := by
  induction changes generalizing base with
  | nil => rfl
  | cons change rest ih =>
      obtain ⟨known, value⟩ := change
      obtain ⟨hfresh, hrest⟩ := List.nodup_cons.mp h
      rw [put, merge_cons]
      split
      · rename_i hknown
        subst hknown
        -- the name has its place by now, and does not come again
        have hmem : known ∈ names (put known value base) := by
          rw [names_put]
          split
          · assumption
          · exact List.mem_append_right _ List.mem_cons_self
        rw [put_merge payload hfresh hmem, put_put]
        rfl
      · exact ih hrest (put known value base)

/-- Merging in two steps is merging with what the steps come to. -/
theorem merge_assoc {middle : List (String × α)} (h : Distinct middle)
    (base changes : List (String × α)) :
    merge (merge base middle) changes = merge base (merge middle changes) := by
  induction changes generalizing middle with
  | nil => rfl
  | cons change rest ih =>
      obtain ⟨name, payload⟩ := change
      rw [merge_cons, merge_cons, ← ih (h.put name payload), merge_put h]

end Entries
end DesiredState
