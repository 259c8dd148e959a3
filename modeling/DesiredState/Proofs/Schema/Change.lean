import DesiredState.Proofs.Attributes
import DesiredState.Proofs.Except
import DesiredState.Schema.Change

/-!
# The anatomy of a change set

Which value a change set holds under each name, and when there is nothing left
to change.  `Comparison.emits` is the verdict of a comparison that judges a
name on its own; names in a pair are judged together.  Every comparison accepts
the value that it sent itself.
-/

namespace DesiredState

/-- What a comparison that judges a name on its own has to send, if anything. -/
def Comparison.emits (comparison : Comparison) (wanted : Value)
    (observed : Option Value) : Option Value :=
  match comparison with
  | .unorderedList => wanted.listChange observed
  | .optionalText => wanted.optionalChange observed
  | .keywordOrSet => wanted.keywordChange observed
  | _ => if sameOption observed (some wanted) then none else some wanted

namespace Value

theorem sameSet_self (items : List String) : sameSet items items = true := by
  simp [sameSet]

/-- What is sent for a list is the list itself, or the empty list where it asks
for clearing. -/
theorem listChange_eq_some {wanted sent : Value} {observed : Option Value}
    (h : wanted.listChange observed = some sent) :
    sent = if wanted.elements.isEmpty then .list [] else wanted := by
  simp only [listChange] at h
  split at h
  · rename_i hclear
    split at h
    · cases h
    · rw [if_pos hclear]
      exact (Option.some.inj h).symm
  · rename_i hset
    split at h
    · cases h
    · rw [if_neg hset]
      exact (Option.some.inj h).symm

/-- What is sent for a text is the text itself, or the empty text where it asks
for clearing. -/
theorem optionalChange_eq_some {wanted sent : Value} {observed : Option Value}
    (h : wanted.optionalChange observed = some sent) :
    sent = if wanted.isClear then .text "" else wanted := by
  simp only [optionalChange] at h
  split at h
  · rename_i hclear
    split at h
    · cases h
    · rw [if_pos hclear]
      exact (Option.some.inj h).symm
  · rename_i hset
    split at h
    · cases h
    · rw [if_neg hset]
      exact (Option.some.inj h).symm

theorem listChange_sent (wanted : Value) :
    wanted.listChange (some (if wanted.elements.isEmpty then .list [] else wanted)) =
      none := by
  by_cases hclear : wanted.elements.isEmpty = true
  · simp only [listChange, if_pos hclear]
    simp [elements]
  · simp only [listChange, if_neg hclear]
    simp [sameSet_self]

theorem optionalChange_sent {wanted : Value} (hself : wanted.same wanted = true) :
    wanted.optionalChange (some (if wanted.isClear then .text "" else wanted)) =
      none := by
  by_cases hclear : wanted.isClear = true
  · simp only [optionalChange, if_pos hclear]
    rfl
  · simp only [optionalChange, if_neg hclear]
    simp [sameOption, hself]

/-- Where sameness decides, the wanted value itself is sent. -/
theorem exactChange_eq_some {wanted sent : Value} {observed : Option Value}
    (h : (if sameOption observed (some wanted) then none else some wanted) =
      some sent) : sent = wanted := by
  split at h
  · cases h
  · exact (Option.some.inj h).symm

/-- What is sent for a keyword or list is the value itself. -/
theorem keywordChange_eq_some {wanted sent : Value} {observed : Option Value}
    (h : wanted.keywordChange observed = some sent) : sent = wanted := by
  cases wanted with
  | text keyword =>
      unfold keywordChange at h
      split at h <;> simp_all
  | list items =>
      by_cases htext : ∃ current, observed = some (.text current)
      · obtain ⟨current, rfl⟩ := htext
        simp only [keywordChange] at h
        split at h
        · cases h
        · exact (Option.some.inj h).symm
      · have hchange : (Value.list items).listChange observed = some sent := by
          unfold keywordChange at h
          split at h <;> simp_all
        -- a list that asks for clearing is the empty one, so it is sent as it is
        rw [listChange_eq_some hchange]
        cases items with
        | nil => rfl
        | cons item rest => rfl
  | flag on =>
      simp only [keywordChange] at h
      exact exactChange_eq_some h
  | int number =>
      simp only [keywordChange] at h
      exact exactChange_eq_some h
  | nested entries =>
      simp only [keywordChange] at h
      exact exactChange_eq_some h

theorem keywordChange_self {wanted : Value} (hself : wanted.same wanted = true) :
    wanted.keywordChange (some wanted) = none := by
  cases wanted with
  | text keyword => simp [keywordChange]
  | list items => simp [keywordChange, listChange, elements, sameSet_self]
  | flag on => simp [keywordChange, sameOption, hself]
  | int number => simp [keywordChange, sameOption, hself]
  | nested entries => simp [keywordChange, sameOption, hself]

end Value

/-- Every comparison accepts the value that it sent itself. -/
theorem Comparison.emits_sent (comparison : Comparison) {wanted sent : Value}
    {observed : Option Value} (hself : wanted.same wanted = true)
    (h : comparison.emits wanted observed = some sent) :
    comparison.emits wanted (some sent) = none := by
  have hexact : (if sameOption observed (some wanted) then none else some wanted) =
      some sent → (if sameOption (some sent) (some wanted) then none else some wanted) =
        none := by
    intro hsent
    rw [Value.exactChange_eq_some hsent]
    simp [sameOption, hself]
  -- only lists and texts may be sent as another value than the wanted one
  cases comparison with
  | unorderedList =>
      rw [Value.listChange_eq_some h]
      exact Value.listChange_sent wanted
  | optionalText =>
      rw [Value.optionalChange_eq_some h]
      exact Value.optionalChange_sent hself
  | keywordOrSet =>
      rw [Value.keywordChange_eq_some h]
      exact Value.keywordChange_self hself
  | exact => exact hexact h
  | paired partner => exact hexact h
  | immutable => exact hexact h

namespace Schema

/-- Whether a name is wanted with another value than the observed one. -/
def differs (want held : Attributes) (name : String) : Bool :=
  (want.get? name).any fun value => !sameOption (held.get? name) (some value)

/-- What a change set holds under an updatable name.  Two names in a pair are
sent together as soon as one of them differs. -/
def sent (schema : Schema) (want held : Attributes) (name : String) : Option Value :=
  match schema.comparison name with
  | .paired partner =>
      if differs want held name || differs want held partner then
        (want.get? name).or (held.get? name)
      else
        none
  | comparison =>
      (want.get? name).bind fun wanted => comparison.emits wanted (held.get? name)

/-- Pairs are declared from both sides, and both names may be updated. -/
def PairsMutually (schema : Schema) (updatable : List String) : Prop :=
  ∀ name ∈ updatable, ∀ partner, schema.comparison name = .paired partner →
    partner ∈ updatable ∧ schema.comparison partner = .paired name

/-- Nothing is left to change: no dependency is violated and no name differs. -/
structure Settled (schema : Schema) (updatable : List String)
    (dependencies : List Dependency) (want held : Attributes) : Prop where
  /-- Every dependency is respected. -/
  respected : ∀ dependency ∈ dependencies, dependency.check want held = .ok ()
  /-- Every name is judged to need nothing. -/
  quiet : ∀ name ∈ updatable, schema.changesAt want held name = .ok []

variable {schema : Schema} {updatable : List String} {dependencies : List Dependency}
  {want held changes : Attributes}

/-! ## One name -/

/-- The entries of a name that is judged on its own. -/
theorem changesAt_of_single {name : String} {entries : List (String × Value)}
    (hsingle : ∀ partner, schema.comparison name ≠ .paired partner)
    (h : schema.changesAt want held name = .ok entries) :
    entries = ((schema.sent want held name).map fun value => (name, value)).toList := by
  unfold changesAt at h
  unfold sent
  cases hwant : want.get? name with
  | none =>
      rw [hwant] at h
      obtain rfl := Except.ok.inj h
      split <;> simp_all
  | some wanted =>
      simp only [hwant] at h
      cases hcomparison : schema.comparison name with
      | paired partner => exact absurd hcomparison (hsingle partner)
      | unorderedList =>
          rw [hcomparison] at h
          exact (Except.ok.inj h).symm
      | optionalText =>
          rw [hcomparison] at h
          exact (Except.ok.inj h).symm
      | keywordOrSet =>
          rw [hcomparison] at h
          exact (Except.ok.inj h).symm
      | exact =>
          rw [hcomparison] at h
          obtain rfl := Except.ok.inj h
          simp only [Option.bind_some, Comparison.emits]
          split <;> rfl
      | immutable =>
          simp only [hcomparison] at h
          simp only [Option.bind_some, Comparison.emits]
          -- an attribute that cannot be changed may still be given a first value
          cases hobserved : held.get? name with
          | none =>
              rw [hobserved] at h
              obtain rfl := Except.ok.inj h
              simp [sameOption]
          | some current =>
              simp only [hobserved] at h
              split at h
              · rename_i hsame
                obtain rfl := Except.ok.inj h
                simp [sameOption, hsame]
              · cases h

/-- A name that is judged on its own is quiet exactly when its comparison has
nothing to send. -/
theorem changesAt_eq_nil_iff {name : String}
    (hsingle : ∀ partner, schema.comparison name ≠ .paired partner) :
    schema.changesAt want held name = .ok [] ↔
      ∀ wanted, want.get? name = some wanted →
        (schema.comparison name).emits wanted (held.get? name) = none := by
  unfold changesAt
  cases hwant : want.get? name with
  | none => simp
  | some wanted =>
      simp only [Option.some.injEq, forall_eq']
      cases hcomparison : schema.comparison name with
      | paired partner => exact absurd hcomparison (hsingle partner)
      | unorderedList => simp [Comparison.emits]
      | optionalText => simp [Comparison.emits]
      | keywordOrSet => simp [Comparison.emits]
      | exact => simp [Comparison.emits]
      | immutable =>
          cases hobserved : held.get? name with
          | none => simp [Comparison.emits, sameOption]
          | some current =>
              by_cases hsame : current.same wanted = true
              · simp [Comparison.emits, sameOption, hsame]
              · simp [Comparison.emits, sameOption, hsame]

theorem sent_of_single {name : String}
    (hsingle : ∀ partner, schema.comparison name ≠ .paired partner) :
    schema.sent want held name = (want.get? name).bind fun wanted =>
      (schema.comparison name).emits wanted (held.get? name) := by
  unfold sent
  split
  · rename_i partner hpaired
    exact absurd hpaired (hsingle partner)
  · rfl

/-! ## Two names -/

theorem wanted_of_differs {name : String} (h : differs want held name = true) :
    ∃ wanted, want.get? name = some wanted := by
  cases hwant : want.get? name with
  | none => simp [differs, hwant] at h
  | some wanted => exact ⟨wanted, rfl⟩

theorem sent_of_paired {name partner : String}
    (hpaired : schema.comparison name = .paired partner) :
    schema.sent want held name =
      if differs want held name || differs want held partner then
        (want.get? name).or (held.get? name)
      else
        none := by
  simp [sent, hpaired]

/-- The entries of a name that is judged together with a partner. -/
theorem changesAt_of_paired {name partner : String}
    (hpaired : schema.comparison name = .paired partner) :
    schema.changesAt want held name = .ok (
      match want.get? name with
      | none => []
      | some wanted =>
          if differs want held name || differs want held partner then
            (name, wanted) ::
              (((want.get? partner).or (held.get? partner)).map
                fun value => (partner, value)).toList
          else
            []) := by
  unfold changesAt
  cases hwant : want.get? name with
  | none => rfl
  | some wanted =>
      simp only [hpaired, differs, hwant, Option.any_some]
      split
      · rfl
      · rfl

theorem differs_eq_false_iff {name : String} :
    differs want held name = false ↔
      ∀ wanted, want.get? name = some wanted →
        sameOption (held.get? name) (some wanted) = true := by
  unfold differs
  cases want.get? name with
  | none => simp
  | some wanted => simp

/-- A pair is quiet exactly when neither name differs. -/
theorem changesAt_pair_iff {name partner : String}
    (hpaired : schema.comparison name = .paired partner)
    (hback : schema.comparison partner = .paired name) :
    (schema.changesAt want held name = .ok [] ∧
        schema.changesAt want held partner = .ok []) ↔
      differs want held name = false ∧ differs want held partner = false := by
  -- a wanted name answers for its partner too, an unwanted one for nothing
  have hquiet : ∀ {one other : String}, schema.comparison one = .paired other →
      (schema.changesAt want held one = .ok [] ↔
        (want.get? one ≠ none →
          differs want held one = false ∧ differs want held other = false)) := by
    intro one other hone
    rw [changesAt_of_paired hone]
    cases hwant : want.get? one with
    | none => simp
    | some wanted =>
        cases hfirst : differs want held one <;> cases hsecond : differs want held other <;>
          simp
  rw [hquiet hpaired, hquiet hback]
  have hunwanted : ∀ one, want.get? one = none → differs want held one = false := by
    intro one hone
    simp [differs, hone]
  constructor
  · rintro ⟨hname, hpartner⟩
    refine ⟨?_, ?_⟩
    · by_cases hwant : want.get? name = none
      · exact hunwanted name hwant
      · exact (hname hwant).1
    · by_cases hwant : want.get? partner = none
      · exact hunwanted partner hwant
      · exact (hpartner hwant).1
  · rintro ⟨hname, hpartner⟩
    exact ⟨fun _ => ⟨hname, hpartner⟩, fun _ => ⟨hpartner, hname⟩⟩

/-- A pair that is kept is quiet afterwards exactly when it was before. -/
theorem changesAt_pair_kept_iff {after : Attributes} {name partner : String}
    (hpaired : schema.comparison name = .paired partner)
    (hback : schema.comparison partner = .paired name)
    (hname : after.get? name = held.get? name)
    (hpartner : after.get? partner = held.get? partner) :
    (schema.changesAt want after name = .ok [] ∧
        schema.changesAt want after partner = .ok []) ↔
      (differs want held name || differs want held partner) = false := by
  rw [changesAt_pair_iff hpaired hback, Bool.or_eq_false_iff]
  simp only [differs, hname, hpartner]

/-! ## The change set -/

/-- An entry that a judged name adds is its own, or its partner's when one of
the two differs. -/
theorem mem_changesAt_cases {name judged : String} {value : Value}
    {entries : List (String × Value)} (h : schema.changesAt want held judged = .ok entries)
    (hmem : (name, value) ∈ entries) :
    (name = judged ∧ schema.sent want held judged = some value) ∨
      (schema.comparison judged = .paired name ∧
        (differs want held judged || differs want held name) = true ∧
        (want.get? name).or (held.get? name) = some value) := by
  by_cases hsingle : ∀ partner, schema.comparison judged ≠ .paired partner
  · rw [changesAt_of_single hsingle h] at hmem
    obtain ⟨sentValue, hsent, heq⟩ : ∃ sentValue,
        schema.sent want held judged = some sentValue ∧
          (judged, sentValue) = (name, value) := by
      simpa using hmem
    obtain ⟨rfl, rfl⟩ := Prod.mk.inj heq
    exact Or.inl ⟨rfl, hsent⟩
  · obtain ⟨partner, hpaired⟩ : ∃ partner, schema.comparison judged = .paired partner := by
      simpa using hsingle
    rw [changesAt_of_paired hpaired] at h
    obtain rfl := Except.ok.inj h
    cases hwant : want.get? judged with
    | none => simp [hwant] at hmem
    | some wanted =>
        simp only [hwant] at hmem
        split at hmem
        · rename_i hdiffers
          rcases List.mem_cons.mp hmem with heq | hother
          · obtain ⟨rfl, rfl⟩ := Prod.mk.inj heq
            refine Or.inl ⟨rfl, ?_⟩
            rw [sent_of_paired hpaired, if_pos hdiffers, hwant, Option.some_or]
          · obtain ⟨sentValue, hsent, heq⟩ : ∃ sentValue,
                (want.get? partner).or (held.get? partner) = some sentValue ∧
                  (partner, sentValue) = (name, value) := by
              simpa using hother
            obtain ⟨rfl, rfl⟩ := Prod.mk.inj heq
            exact Or.inr ⟨hpaired, hdiffers, hsent⟩
        · simp at hmem

/-- Every entry that a name adds is what is sent under an updatable name. -/
theorem sent_of_mem_changesAt (hpairs : schema.PairsMutually updatable) {name judged : String}
    {value : Value} {entries : List (String × Value)} (hjudged : judged ∈ updatable)
    (h : schema.changesAt want held judged = .ok entries)
    (hmem : (name, value) ∈ entries) :
    name ∈ updatable ∧ schema.sent want held name = some value := by
  rcases mem_changesAt_cases h hmem with ⟨rfl, hsent⟩ | ⟨hpaired, hdiffers, hsent⟩
  · exact ⟨hjudged, hsent⟩
  · obtain ⟨hname, hback⟩ := hpairs judged hjudged name hpaired
    refine ⟨hname, ?_⟩
    rw [sent_of_paired hback, if_pos (by rwa [Bool.or_comm]), hsent]

/-- What is sent under an updatable name is added by the name or its partner. -/
theorem mem_changesAt_of_sent (hpairs : schema.PairsMutually updatable) {name : String}
    {value : Value} (hname : name ∈ updatable)
    (hsent : schema.sent want held name = some value)
    (hok : ∀ judged ∈ updatable, ∃ entries,
      schema.changesAt want held judged = .ok entries) :
    ∃ judged ∈ updatable, ∃ entries,
      schema.changesAt want held judged = .ok entries ∧ (name, value) ∈ entries := by
  obtain ⟨entries, hentries⟩ := hok name hname
  by_cases hsingle : ∀ partner, schema.comparison name ≠ .paired partner
  · refine ⟨name, hname, entries, hentries, ?_⟩
    rw [changesAt_of_single hsingle hentries, hsent]
    simp
  · obtain ⟨partner, hpaired⟩ : ∃ partner, schema.comparison name = .paired partner := by
      simpa using hsingle
    obtain ⟨hpartner, hback⟩ := hpairs name hname partner hpaired
    rw [sent_of_paired hpaired] at hsent
    split at hsent
    · rename_i hdiffers
      cases hwant : want.get? name with
      | some wanted =>
          refine ⟨name, hname, _, changesAt_of_paired hpaired, ?_⟩
          rw [hwant, Option.some_or] at hsent
          simp [hwant, hdiffers, Option.some.inj hsent]
      | none =>
          -- the name itself is not wanted, so its partner brings it along
          have hother : differs want held partner = true := by
            simpa [differs, hwant] using hdiffers
          obtain ⟨wanted, hwanted⟩ := wanted_of_differs hother
          refine ⟨partner, hpartner, _, changesAt_of_paired hback, ?_⟩
          rw [hwant] at hsent
          simp only [hwanted, hother, Bool.true_or, if_true, hwant, hsent]
          simp
    · cases hsent

/-- What a change set holds was added by some judged name. -/
theorem source_of_changes
    (h : schema.changes updatable dependencies want held = .ok changes) {name : String}
    {value : Value} (hvalue : changes.get? name = some value) :
    ∃ judged ∈ updatable, ∃ entries,
      schema.changesAt want held judged = .ok entries ∧ (name, value) ∈ entries := by
  obtain ⟨-, -, hrest⟩ := bind_eq_ok_iff.mp h
  obtain ⟨found, hfound, hchanges⟩ := bind_eq_ok_iff.mp hrest
  obtain rfl := Except.ok.inj hchanges
  rw [Attributes.get?_ofList] at hvalue
  obtain ⟨entries, hentries, hmem⟩ := List.mem_flatten.mp (Entries.mem_of_latest hvalue)
  obtain ⟨judged, hjudged, hadded⟩ := exists_of_mem_of_mapM_eq_ok hfound hentries
  exact ⟨judged, hjudged, entries, hadded, hmem⟩

/-- What a judged name adds is found in the change set under some value. -/
theorem mem_names_of_changesAt
    (h : schema.changes updatable dependencies want held = .ok changes)
    {name judged : String} {value : Value} {entries : List (String × Value)}
    (hjudged : judged ∈ updatable)
    (hentries : schema.changesAt want held judged = .ok entries)
    (hmem : (name, value) ∈ entries) : name ∈ changes.names := by
  obtain ⟨-, -, hrest⟩ := bind_eq_ok_iff.mp h
  obtain ⟨found, hfound, hchanges⟩ := bind_eq_ok_iff.mp hrest
  obtain rfl := Except.ok.inj hchanges
  obtain ⟨others, hothers, heq⟩ := exists_of_mapM_eq_ok hfound hjudged
  obtain rfl : others = entries := Except.ok.inj (heq.symm.trans hentries)
  rw [← Classical.not_not (a := name ∈ _), ← Attributes.get?_eq_none_iff,
    Attributes.get?_ofList, Entries.latest_eq_none_iff, Classical.not_not]
  exact Entries.mem_names_of_mem (List.mem_flatten.mpr ⟨others, hothers, hmem⟩)

/-- Where there is a change set, every name was judged. -/
theorem judged_of_changes
    (h : schema.changes updatable dependencies want held = .ok changes) {name : String}
    (hname : name ∈ updatable) : ∃ entries, schema.changesAt want held name = .ok entries := by
  obtain ⟨-, -, hrest⟩ := bind_eq_ok_iff.mp h
  obtain ⟨found, hfound, -⟩ := bind_eq_ok_iff.mp hrest
  obtain ⟨entries, -, hentries⟩ := exists_of_mapM_eq_ok hfound hname
  exact ⟨entries, hentries⟩

/-- What a change set holds, name by name. -/
theorem get?_of_changes (hpairs : schema.PairsMutually updatable)
    (h : schema.changes updatable dependencies want held = .ok changes) (name : String) :
    changes.get? name = if name ∈ updatable then schema.sent want held name else none := by
  cases hvalue : changes.get? name with
  | some value =>
      obtain ⟨judged, hjudged, entries, hentries, hmem⟩ := source_of_changes h hvalue
      obtain ⟨hname, hsent⟩ := sent_of_mem_changesAt hpairs hjudged hentries hmem
      rw [if_pos hname, hsent]
  | none =>
      split
      · rename_i hname
        -- what is sent is added by some name, so no entry means nothing is sent
        cases hsent : schema.sent want held name with
        | none => rfl
        | some value =>
            obtain ⟨judged, hjudged, entries, hentries, hmem⟩ :=
              mem_changesAt_of_sent hpairs hname hsent fun judged hjudged =>
                judged_of_changes h hjudged
            exact absurd (mem_names_of_changesAt h hjudged hentries hmem)
              (Attributes.get?_eq_none_iff.mp hvalue)
      · rfl

theorem distinct_of_changes
    (h : schema.changes updatable dependencies want held = .ok changes) :
    changes.Distinct := by
  obtain ⟨-, -, hrest⟩ := bind_eq_ok_iff.mp h
  obtain ⟨found, -, hchanges⟩ := bind_eq_ok_iff.mp hrest
  obtain rfl := Except.ok.inj hchanges
  exact Attributes.distinct_ofList _

theorem respected_of_changes
    (h : schema.changes updatable dependencies want held = .ok changes) :
    ∀ dependency ∈ dependencies, dependency.check want held = .ok () := by
  obtain ⟨⟨⟩, hchecks, -⟩ := bind_eq_ok_iff.mp h
  exact forM_eq_ok_iff.mp hchecks

/-- A change set is empty exactly when nothing is left to change. -/
theorem settled_iff_changes_isEmpty :
    schema.Settled updatable dependencies want held ↔
      ∃ changes, schema.changes updatable dependencies want held = .ok changes ∧
        changes.isEmpty = true := by
  constructor
  · rintro ⟨hrespected, hquiet⟩
    refine ⟨.empty, ?_, rfl⟩
    refine bind_eq_ok_iff.mpr ⟨(), forM_eq_ok_iff.mpr hrespected, ?_⟩
    refine bind_eq_ok_iff.mpr ⟨updatable.map fun _ => [], ?_, ?_⟩
    · rw [mapM_eq_ok_iff, List.map_map]
      exact List.map_congr_left hquiet
    · have hflat : (updatable.map fun _ => ([] : List (String × Value))).flatten = [] := by
        simp
      rw [hflat]
      rfl
  · rintro ⟨changes, h, hempty⟩
    refine ⟨respected_of_changes h, fun name hname => ?_⟩
    obtain ⟨-, -, hrest⟩ := bind_eq_ok_iff.mp h
    obtain ⟨found, hfound, hchanges⟩ := bind_eq_ok_iff.mp hrest
    obtain rfl := Except.ok.inj hchanges
    obtain ⟨entries, hentries, heq⟩ := exists_of_mapM_eq_ok hfound hname
    rw [heq]
    -- an entry of any name would be found in the change set
    cases entries with
    | nil => rfl
    | cons entry rest =>
        have hnone := Attributes.isEmpty_iff.mp hempty entry.1
        rw [Attributes.get?_ofList, Entries.latest_eq_none_iff] at hnone
        exact absurd (Entries.mem_names_of_mem
          (List.mem_flatten.mpr ⟨_, hentries, List.mem_cons_self⟩)) hnone

/-- Nothing is left to change exactly where the change set is the empty one. -/
theorem changes_eq_empty_iff :
    schema.changes updatable dependencies want held = .ok .empty ↔
      schema.Settled updatable dependencies want held := by
  rw [settled_iff_changes_isEmpty]
  constructor
  · intro h
    exact ⟨.empty, h, rfl⟩
  · rintro ⟨changes, h, hempty⟩
    rw [h, Attributes.eq_empty_of_isEmpty hempty]

end Schema
end DesiredState
