import DesiredState.Proofs.Schema.Convergence
import DesiredState.Proofs.Value

/-!
# A change set is exact

What a change set has to hold is said here without the functions that compute
it.  `Comparison.Distinguishes` says when an observed value is not what is
wanted: as sets of texts, up to clearing, up to an unset keyword, or by
sameness.  `Schema.Deviates` carries this to names, and `Schema.ExactlyChanges`
lists the names and the values of a change set.  `Schema.changes` yields such a
set, or refuses to alter what cannot be changed; it never does both, and never
something else.

Values are read liberally on both sides: a list may be wanted as a text, and a
text may be observed as a number.  Only where a keyword or a list is expected
does the reading of the observed value matter, since an empty text counts as
an empty list there and not as an unset keyword.
-/

namespace DesiredState

/-! ## When a name deviates -/

namespace Value

/-- Whether a text is among those that an optional value stands for when it is
read as a set: an unset value, the empty text and `none` stand for nothing, any
other text for itself, and what is neither a text nor a list for nothing. -/
def Lists : Option Value → String → Prop
  | some (.list items), item => item ∈ items
  | some (.text content), item => content ≠ "" ∧ content ≠ "none" ∧ item = content
  | _, _ => False

/-- An optional value, with the values that ask for clearing taken as unset. -/
def unlessClear (value : Option Value) : Option Value :=
  value.filter fun value => !value.isClear

/-- An optional value, with an unset one and the keyword `none` taken as the
empty list. -/
def listing : Option Value → Value
  | none => .list []
  | some (.text word) => if word = "none" then .list [] else .text word
  | some value => value

/-- Sameness, where the order and the number of a list's items do not count. -/
def Agree : Value → Value → Prop
  | .list a, .list b => ∀ item, item ∈ a ↔ item ∈ b
  | a, b => a.same b = true

/-- The values of an attribute that holds a keyword or a list: unset, a word or
a list. -/
def KeywordOrList : Option Value → Prop
  | none => True
  | some (.text word) => word ≠ ""
  | some (.list _) => True
  | _ => False

instance : (value : Option Value) → Decidable (KeywordOrList value)
  | none => isTrue trivial
  | some (.text word) => inferInstanceAs (Decidable (word ≠ ""))
  | some (.list _) => isTrue trivial
  | some (.flag _) | some (.int _) | some (.nested _) => isFalse id

end Value

/-- When a comparison tells an observed value from a wanted one. -/
def Comparison.Distinguishes : Comparison → Value → Option Value → Prop
  | .unorderedList, wanted, observed =>
      ¬ ∀ item, Value.Lists (some wanted) item ↔ Value.Lists observed item
  | .optionalText, wanted, observed =>
      sameOption (Value.unlessClear observed) (Value.unlessClear (some wanted)) = false
  | .keywordOrSet, wanted, observed =>
      ¬ Value.Agree (Value.listing observed) (Value.listing (some wanted))
  | _, wanted, observed => sameOption observed (some wanted) = false

/-- Which value is sent for a wanted one that is told from the observed one: the
wanted value itself, except that a list that stands for nothing is sent as the
empty list and a text that asks for clearing as the empty text. -/
def Comparison.Sends : Comparison → Value → Value → Prop
  | .unorderedList, wanted, value =>
      (∃ item, Value.Lists (some wanted) item) ∧ value = wanted ∨
        (∀ item, ¬ Value.Lists (some wanted) item) ∧ value = .list []
  | .optionalText, wanted, value =>
      if wanted.isClear then value = .text "" else value = wanted
  | _, wanted, value => value = wanted

namespace Schema

/-- A name is wanted with a value that its comparison tells from the observed
one. -/
def Deviates (schema : Schema) (want held : Attributes) (name : String) : Prop :=
  ∃ wanted, want.get? name = some wanted ∧
    (schema.comparison name).Distinguishes wanted (held.get? name)

/-- An attribute that cannot be changed is set, and wanted with another value. -/
def AltersFixed (schema : Schema) (want held : Attributes) (name : String) : Prop :=
  schema.comparison name = .immutable ∧
    ∃ wanted current, want.get? name = some wanted ∧ held.get? name = some current ∧
      current.same wanted = false

/-- A change set that holds what has to be sent and nothing else. -/
structure ExactlyChanges (schema : Schema) (updatable : List String)
    (want held changes : Attributes) : Prop where
  /-- Each name occurs once. -/
  distinct : changes.Distinct
  /-- A name occurs if it deviates, or if it is set on either side and its
  partner deviates. -/
  mem_names_iff : ∀ name, name ∈ changes.names ↔
    name ∈ updatable ∧ schema.Deviates want held name ∨
      ∃ partner ∈ updatable, schema.comparison partner = .paired name ∧
        schema.Deviates want held partner ∧ (name ∈ want.names ∨ name ∈ held.names)
  /-- A wanted name occurs with what its comparison sends. -/
  sends : ∀ name wanted value, want.get? name = some wanted →
    changes.get? name = some value → (schema.comparison name).Sends wanted value
  /-- A name that is not wanted occurs with what is there. -/
  keeps : ∀ name value, want.get? name = none → changes.get? name = some value →
    held.get? name = some value

end Schema

/-! ## The verdicts of comparisons -/

namespace Value

theorem lists_iff {value : Option Value} {item : String} :
    Lists value item ↔ item ∈ (value.map elements).getD [] := by
  cases value with
  | none => simp [Lists]
  | some value =>
      cases value with
      | text content =>
          by_cases hempty : content = ""
          · simp [Lists, elements, hempty]
          · by_cases hnone : content = "none"
            · simp [Lists, elements, hnone]
            · simp [Lists, elements, hempty, hnone]
      | list items => simp [Lists, elements]
      | flag on => simp [Lists, elements]
      | int number => simp [Lists, elements]
      | nested entries => simp [Lists, elements]

theorem sameSet_iff {a b : List String} :
    sameSet a b = true ↔ ∀ item, item ∈ a ↔ item ∈ b := by
  simp only [sameSet, Bool.and_eq_true, List.all_eq_true, List.contains_iff_mem]
  constructor
  · rintro ⟨hab, hba⟩ item
    exact ⟨hab item, hba item⟩
  · intro h
    exact ⟨fun item => (h item).mp, fun item => (h item).mpr⟩

/-- An unordered list needs no change exactly when both sides stand for the
same texts. -/
theorem listChange_eq_none_iff {wanted : Value} {observed : Option Value} :
    wanted.listChange observed = none ↔
      ∀ item, Lists (some wanted) item ↔ Lists observed item := by
  simp only [lists_iff, listChange, Option.map_some, Option.getD_some]
  split
  · rename_i hempty
    rw [List.isEmpty_iff.mp hempty]
    cases (observed.map elements).getD [] with
    | nil => simp
    | cons item rest =>
        simp only [List.isEmpty_cons, Bool.false_eq_true, if_false, reduceCtorEq,
          List.not_mem_nil, false_iff]
        exact fun hnone => hnone item List.mem_cons_self
  · rw [← sameSet_iff]
    split
    · rename_i hsame
      simp [hsame]
    · rename_i hdiffers
      simp [hdiffers]

/-- An optional text needs no change exactly when both sides are the same once
what asks for clearing is unset. -/
theorem optionalChange_eq_none_iff {wanted : Value} {observed : Option Value} :
    wanted.optionalChange observed = none ↔
      sameOption (unlessClear observed) (unlessClear (some wanted)) = true := by
  simp only [optionalChange, unlessClear, filter_not_isClear]
  by_cases hclear : wanted.isClear = true
  · cases observed with
    | none => simp [hclear, sameOption]
    | some value =>
        rw [filter_not_isClear]
        cases hvalue : value.isClear <;> simp [hclear, hvalue, sameOption]
  · cases observed with
    | none => simp [hclear, sameOption]
    | some value =>
        rw [filter_not_isClear]
        cases hvalue : value.isClear with
        | false =>
            by_cases hsame : value.same wanted = true <;> simp [hclear, sameOption, hsame]
        | true =>
            have hdiffers : value.same wanted = false := by
              rw [Bool.eq_false_iff]
              intro hsame
              exact hclear (isClear_of_same hsame ▸ hvalue)
            simp [hclear, sameOption, hdiffers]

/-- A keyword needs no change exactly when it agrees with what is there. -/
theorem keywordChange_text_eq_none_iff {keyword : String} {observed : Option Value}
    (hobserved : KeywordOrList observed) :
    (text keyword).keywordChange observed = none ↔
      Agree (listing observed) (listing (some (text keyword))) := by
  cases observed with
  | none => by_cases hnone : keyword = "none" <;> simp [keywordChange, listing, Agree, same, hnone]
  | some current =>
      cases current with
      | text word =>
          by_cases hword : word = "none"
          · subst hword
            by_cases hnone : keyword = "none" <;>
              simp [keywordChange, listing, Agree, same, hnone]
          · by_cases hnone : keyword = "none"
            · simp [keywordChange, listing, Agree, same, hnone, hword, Ne.symm hword]
            · have hcomm : keyword = word ↔ word = keyword := eq_comm
              simp [keywordChange, listing, Agree, same, hnone, hword, hcomm]
      | list items =>
          by_cases hnone : keyword = "none"
          · simp [keywordChange, listing, Agree, hnone, List.eq_nil_iff_forall_not_mem]
          · simp [keywordChange, listing, Agree, same, hnone]
      | flag on => exact hobserved.elim
      | int number => exact hobserved.elim
      | nested entries => exact hobserved.elim

/-- A list needs no change exactly when it agrees with what is there. -/
theorem keywordChange_list_eq_none_iff {items : List String} {observed : Option Value}
    (hobserved : KeywordOrList observed) :
    (list items).keywordChange observed = none ↔
      Agree (listing observed) (listing (some (list items))) := by
  cases observed with
  | none =>
      simp only [keywordChange, listChange_eq_none_iff, listing, Agree, Lists]
      exact forall_congr' fun item => by simp
  | some current =>
      cases current with
      | text word =>
          have hword : word ≠ "" := hobserved
          by_cases hnone : word = "none"
          · simp [keywordChange, listing, Agree, hnone, List.eq_nil_iff_forall_not_mem]
          · simp [keywordChange, listing, Agree, same, hnone, hword]
      | list current =>
          simp only [keywordChange, listChange_eq_none_iff, listing, Agree, Lists]
          exact forall_congr' fun item => Iff.comm
      | flag on => exact hobserved.elim
      | int number => exact hobserved.elim
      | nested entries => exact hobserved.elim

/-- A keyword or list needs no change exactly when both sides agree once an
unset value and the keyword `none` are the empty list. -/
theorem keywordChange_eq_none_iff {wanted : Value} {observed : Option Value}
    (hobserved : KeywordOrList observed) :
    wanted.keywordChange observed = none ↔
      Agree (listing observed) (listing (some wanted)) := by
  cases wanted with
  | text keyword => exact keywordChange_text_eq_none_iff hobserved
  | list items => exact keywordChange_list_eq_none_iff hobserved
  | flag _ | int _ | nested _ =>
      -- what is there is a word or a list, which no value of another kind agrees with
      cases observed with
      | none => simp [keywordChange, listing, Agree, same, sameOption]
      | some current =>
          cases current with
          | text word =>
              by_cases hnone : word = "none" <;>
                simp [keywordChange, listing, Agree, same, sameOption, hnone]
          | list items => simp [keywordChange, listing, Agree, same, sameOption]
          | flag _ | int _ | nested _ => exact hobserved.elim

end Value

/-- A comparison that judges a name on its own has something to send exactly
when it tells the observed value from the wanted one. -/
theorem Comparison.emits_isSome_iff {comparison : Comparison} {wanted : Value}
    {observed : Option Value}
    (hobserved : comparison = .keywordOrSet → Value.KeywordOrList observed) :
    (∃ value, comparison.emits wanted observed = some value) ↔
      comparison.Distinguishes wanted observed := by
  rw [← Option.ne_none_iff_exists', ne_eq]
  cases comparison with
  | unorderedList => exact not_congr Value.listChange_eq_none_iff
  | optionalText =>
      rw [Distinguishes, ← Bool.not_eq_true]
      exact not_congr Value.optionalChange_eq_none_iff
  | keywordOrSet => exact not_congr (Value.keywordChange_eq_none_iff (hobserved rfl))
  | exact | immutable | paired _ => simp [emits, Distinguishes]

/-- What a comparison sends for a wanted value. -/
theorem Comparison.sends_of_emits {comparison : Comparison} {wanted value : Value}
    {observed : Option Value} (h : comparison.emits wanted observed = some value) :
    comparison.Sends wanted value := by
  cases comparison with
  | unorderedList =>
      have hvalue := Value.listChange_eq_some h
      simp only [Sends, Value.lists_iff, Option.map_some, Option.getD_some]
      cases helements : wanted.elements with
      | nil => exact Or.inr ⟨by simp, by simpa [helements] using hvalue⟩
      | cons item rest =>
          exact Or.inl ⟨⟨item, List.mem_cons_self⟩, by simpa [helements] using hvalue⟩
  | optionalText =>
      rw [Sends, Value.optionalChange_eq_some h]
      split
      · rfl
      · rfl
  | keywordOrSet => exact Value.keywordChange_eq_some h
  | exact | immutable | paired _ => exact Value.exactChange_eq_some h

namespace Schema

variable {schema : Schema} {updatable : List String} {dependencies : List Dependency}
  {want held changes : Attributes}

/-- A paired name deviates exactly when it differs. -/
theorem deviates_iff_of_paired {name partner : String}
    (hpaired : schema.comparison name = .paired partner) :
    schema.Deviates want held name ↔ differs want held name = true := by
  simp only [Deviates, hpaired, Comparison.Distinguishes, differs, Option.any_eq_true,
    Bool.not_eq_true']

/-- A name that is judged on its own has something to be sent exactly when it
deviates. -/
theorem sent_isSome_iff_of_single {name : String}
    (hsingle : ∀ partner, schema.comparison name ≠ .paired partner)
    (hheld : schema.comparison name = .keywordOrSet → Value.KeywordOrList (held.get? name)) :
    (∃ value, schema.sent want held name = some value) ↔ schema.Deviates want held name := by
  rw [sent_of_single hsingle]
  cases hwant : want.get? name with
  | none => simp [Deviates, hwant]
  | some wanted =>
      rw [Option.bind_some, Comparison.emits_isSome_iff hheld]
      simp [Deviates, hwant]

/-- What a name that deviates is sent with. -/
theorem sends_of_sent {name : String} {wanted value : Value}
    (hwanted : want.get? name = some wanted)
    (hsent : schema.sent want held name = some value) :
    (schema.comparison name).Sends wanted value := by
  by_cases hsingle : ∀ partner, schema.comparison name ≠ .paired partner
  · rw [sent_of_single hsingle, hwanted, Option.bind_some] at hsent
    exact Comparison.sends_of_emits hsent
  · obtain ⟨partner, hpaired⟩ : ∃ partner, schema.comparison name = .paired partner := by
      simpa using hsingle
    rw [sent_of_paired hpaired, hwanted, Option.some_or] at hsent
    rw [hpaired]
    exact (Option.some.inj (Option.ite_none_right_eq_some.mp hsent).2).symm

/-- A name that is not wanted is sent with what is there. -/
theorem held_of_sent {name : String} {value : Value} (hunwanted : want.get? name = none)
    (hsent : schema.sent want held name = some value) : held.get? name = some value := by
  by_cases hsingle : ∀ partner, schema.comparison name ≠ .paired partner
  · rw [sent_of_single hsingle, hunwanted] at hsent
    cases hsent
  · obtain ⟨partner, hpaired⟩ : ∃ partner, schema.comparison name = .paired partner := by
      simpa using hsingle
    rw [sent_of_paired hpaired, hunwanted, Option.none_or] at hsent
    exact (Option.ite_none_right_eq_some.mp hsent).2

/-- Something is sent under an updatable name exactly when it deviates, or when
it is set on either side and its partner deviates. -/
theorem sent_isSome_iff (hpairs : schema.PairsMutually updatable)
    (hheld : ∀ name ∈ updatable, schema.comparison name = .keywordOrSet →
      Value.KeywordOrList (held.get? name)) (name : String) :
    (name ∈ updatable ∧ ∃ value, schema.sent want held name = some value) ↔
      name ∈ updatable ∧ schema.Deviates want held name ∨
        ∃ partner ∈ updatable, schema.comparison partner = .paired name ∧
          schema.Deviates want held partner ∧ (name ∈ want.names ∨ name ∈ held.names) := by
  by_cases hsingle : ∀ partner, schema.comparison name ≠ .paired partner
  · -- no other name has this one as its partner
    have hno : ¬ ∃ partner ∈ updatable, schema.comparison partner = .paired name ∧
        schema.Deviates want held partner ∧ (name ∈ want.names ∨ name ∈ held.names) := by
      rintro ⟨partner, hpartner, hpaired, -⟩
      exact hsingle partner (hpairs partner hpartner name hpaired).2
    rw [or_iff_left hno]
    refine and_congr_right fun hname => ?_
    exact sent_isSome_iff_of_single hsingle (hheld name hname)
  · obtain ⟨partner, hpaired⟩ : ∃ partner, schema.comparison name = .paired partner := by
      simpa using hsingle
    have hset : (∃ value, (want.get? name).or (held.get? name) = some value) ↔
        name ∈ want.names ∨ name ∈ held.names := by
      rw [Attributes.mem_names_iff, Attributes.mem_names_iff]
      cases want.get? name <;> simp
    rw [sent_of_paired hpaired, deviates_iff_of_paired hpaired]
    constructor
    · rintro ⟨hname, value, hvalue⟩
      obtain ⟨hdiffers, hsent⟩ := Option.ite_none_right_eq_some.mp hvalue
      obtain ⟨hpartner, hback⟩ := hpairs name hname partner hpaired
      rcases Bool.or_eq_true_iff.mp hdiffers with hself | hother
      · exact Or.inl ⟨hname, hself⟩
      · exact Or.inr ⟨partner, hpartner, hback, (deviates_iff_of_paired hback).mpr hother,
          hset.mp ⟨value, hsent⟩⟩
    · rintro (⟨hname, hself⟩ | ⟨other, hother, hback, hdeviates, hnames⟩)
      · obtain ⟨wanted, hwanted⟩ := wanted_of_differs hself
        exact ⟨hname, wanted, by simp [hself, hwanted]⟩
      · obtain ⟨hname, hagain⟩ := hpairs other hother name hback
        obtain rfl : other = partner := Comparison.paired.inj (hagain.symm.trans hpaired)
        obtain ⟨value, hvalue⟩ := hset.mpr hnames
        have hdiffers := (deviates_iff_of_paired hback).mp hdeviates
        exact ⟨hname, value, by simp [hdiffers, hvalue]⟩

/-- A change set holds what has to be sent and nothing else. -/
theorem exactlyChanges_of_changes (hpairs : schema.PairsMutually updatable)
    (hheld : ∀ name ∈ updatable, schema.comparison name = .keywordOrSet →
      Value.KeywordOrList (held.get? name))
    (h : schema.changes updatable dependencies want held = .ok changes) :
    schema.ExactlyChanges updatable want held changes where
  distinct := distinct_of_changes h
  mem_names_iff := by
    intro name
    rw [← sent_isSome_iff hpairs hheld, Attributes.mem_names_iff, get?_of_changes hpairs h]
    simp only [Option.ite_none_right_eq_some, exists_and_left]
  sends := by
    intro name wanted value hwanted hvalue
    rw [get?_of_changes hpairs h] at hvalue
    exact sends_of_sent hwanted (Option.ite_none_right_eq_some.mp hvalue).2
  keeps := by
    intro name value hunwanted hvalue
    rw [get?_of_changes hpairs h] at hvalue
    exact held_of_sent hunwanted (Option.ite_none_right_eq_some.mp hvalue).2

/-! ## Refusals -/

/-- A name is refused exactly when it cannot be changed, and has to be. -/
theorem changesAt_eq_error_iff {name : String} {fault : Fault} :
    schema.changesAt want held name = .error fault ↔
      schema.AltersFixed want held name ∧
        fault = .precondition s!"'{name}' cannot be changed once it is set." := by
  unfold changesAt AltersFixed
  cases hwant : want.get? name with
  | none => simp
  | some wanted =>
      cases hcomparison : schema.comparison name with
      | exact | unorderedList | optionalText | keywordOrSet => simp
      | paired partner =>
          simp only [reduceCtorEq, false_and, iff_false]
          split <;> simp
      | immutable =>
          cases hheld : held.get? name with
          | none => simp
          | some current =>
              cases hsame : current.same wanted with
              | true => simp [hsame]
              | false =>
                  simp only [Option.some.injEq, hsame, Bool.false_eq_true, if_false,
                    Except.error.injEq, true_and, exists_and_left, exists_eq_left']
                  exact eq_comm

/-- Where no name is refused there is a change set, and where one is refused
there is none. -/
theorem changes_eq_error_or_ok (hrespected : ∀ dependency ∈ dependencies,
      dependency.check want held = .ok ()) :
    (∃ name ∈ updatable, schema.AltersFixed want held name ∧
        schema.changes updatable dependencies want held =
          .error (.precondition s!"'{name}' cannot be changed once it is set.")) ∨
      (∀ name ∈ updatable, ¬ schema.AltersFixed want held name) ∧
        ∃ changes, schema.changes updatable dependencies want held = .ok changes := by
  unfold changes
  rw [forM_eq_ok_iff.mpr hrespected]
  cases hfound : updatable.mapM (schema.changesAt want held) with
  | error fault =>
      obtain ⟨name, hname, hrefused⟩ := exists_of_mapM_eq_error hfound
      obtain ⟨halters, rfl⟩ := changesAt_eq_error_iff.mp hrefused
      exact Or.inl ⟨name, hname, halters, rfl⟩
  | ok found =>
      refine Or.inr ⟨fun name hname halters => ?_, _, rfl⟩
      obtain ⟨entries, -, hentries⟩ := exists_of_mapM_eq_ok hfound hname
      rw [changesAt_eq_error_iff.mpr ⟨halters, rfl⟩] at hentries
      cases hentries

/-- Wants that would alter an attribute that cannot be changed are refused as
the state of the device makes them impossible; all other wants have a change
set, which holds what has to be sent and nothing else. -/
theorem changes_exact (hpairs : schema.PairsMutually updatable)
    (hheld : ∀ name ∈ updatable, schema.comparison name = .keywordOrSet →
      Value.KeywordOrList (held.get? name)) :
    ((∃ name ∈ updatable, schema.AltersFixed want held name) →
        ∃ fault, schema.changes updatable [] want held = .error fault ∧
          fault.kind = .precondition) ∧
      ((∀ name ∈ updatable, ¬ schema.AltersFixed want held name) →
        ∃ changes, schema.changes updatable [] want held = .ok changes ∧
          schema.ExactlyChanges updatable want held changes) := by
  have hrespected : ∀ dependency ∈ ([] : List Dependency),
      dependency.check want held = .ok () := List.forall_mem_nil _
  rcases changes_eq_error_or_ok hrespected with
    ⟨name, hname, halters, hrefused⟩ | ⟨hnone, changes, hchanges⟩
  · exact ⟨fun _ => ⟨_, hrefused, rfl⟩, fun hnone => absurd halters (hnone name hname)⟩
  · have hexact := exactlyChanges_of_changes hpairs hheld hchanges
    refine ⟨fun hsome => ?_, fun _ => ⟨changes, hchanges, hexact⟩⟩
    obtain ⟨name, hname, halters⟩ := hsome
    exact absurd halters (hnone name hname)

/-- The sample is exact: one end of its pair is wanted and brings the other
along, and another type is refused. -/
theorem oneOfEach_changes_exact :
    (∃ changes, oneOfEach.changes oneOfEach.names [] eachWanted eachHeld = .ok changes ∧
        oneOfEach.ExactlyChanges oneOfEach.names eachWanted eachHeld changes) ∧
      ∃ fault, oneOfEach.changes oneOfEach.names [] eachWanted
          (eachHeld.insert "type" (.text "other")) = .error fault ∧
        fault.kind = .precondition := by
  have hfixed : ∀ name ∈ oneOfEach.names,
      ¬ oneOfEach.AltersFixed eachWanted eachHeld name := by
    have hjudged : ∀ name ∈ oneOfEach.names,
        (oneOfEach.changesAt eachWanted eachHeld name).isOk = true := by decide
    intro name hname halters
    have hok := hjudged name hname
    rw [changesAt_eq_error_iff.mpr ⟨halters, rfl⟩] at hok
    cases hok
  have hother : oneOfEach.AltersFixed eachWanted (eachHeld.insert "type" (.text "other")) "type" :=
    ⟨rfl, .text "fixed", .text "other", rfl, rfl, by decide⟩
  exact ⟨(changes_exact pairsMutually_oneOfEach (by decide)).2 hfixed,
    (changes_exact pairsMutually_oneOfEach (by decide)).1 ⟨"type", by decide, hother⟩⟩

end Schema
end DesiredState
