import DesiredState.Proofs.Schema.Convergence
import Mathlib.Data.List.Induction
import Mathlib.Data.List.Perm.Subperm
import Mathlib.Data.List.Sort

/-!
# The order of a change set

The updatable names are judged in their turn, and what a name adds to the
change set goes to the end of it.  A name on its own is added in its own turn.
A name in a pair brings its partner along, right behind itself, and the partner
is then ahead of its turn, or behind it if it is not wanted itself.

So the names of a change set come in the declared order exactly when no pair
takes a name out of its turn, `PairsInTurn`: of two partners that are sent, the
one that is declared first is wanted, and no name that is sent is declared
between them.
-/

namespace DesiredState

/-! ## Lists in the order of another one -/

/-- Of two lists in the same order, the one with fewer names is a part of the
other. -/
theorem sublist_of_subset {place : String → Nat} {part whole : List String}
    (hpart : part.Pairwise fun first second => place first < place second)
    (hwhole : whole.Pairwise fun first second => place first < place second)
    (hmem : part ⊆ whole) : part.Sublist whole := by
  have hantisymm : Std.Antisymm fun first second : String => place first < place second :=
    ⟨fun _ _ hlt hgt => absurd hgt (Nat.lt_asymm hlt)⟩
  have hnodup : part.Nodup := hpart.imp fun hlt heq => Nat.ne_of_lt hlt (congrArg place heq)
  exact List.sublist_of_subperm_of_pairwise (List.Nodup.subperm hnodup hmem) hpart hwhole

/-- A list is a part of one without repetitions exactly when it has names of it
only, in the order of their places. -/
theorem sublist_iff_idxOf {part listed : List String} (hlisted : listed.Nodup) :
    part.Sublist listed ↔ (∀ name ∈ part, name ∈ listed) ∧
      part.Pairwise fun first second => listed.idxOf first < listed.idxOf second := by
  have hordered :
      listed.Pairwise fun first second => listed.idxOf first < listed.idxOf second := by
    rw [List.pairwise_iff_getElem]
    intro i j hi hj hlt
    rwa [hlisted.idxOf_getElem i hi, hlisted.idxOf_getElem j hj]
  constructor
  · intro h
    exact ⟨fun name hname => h.subset hname, hordered.sublist h⟩
  · rintro ⟨hmem, hpart⟩
    exact sublist_of_subset hpart hordered hmem

/-- Of two parts of a list, the one with fewer names is a part of the other. -/
theorem sublist_of_sublists {part whole listed : List String} (hlisted : listed.Nodup)
    (hpart : part.Sublist listed) (hwhole : whole.Sublist listed) (hmem : part ⊆ whole) :
    part.Sublist whole :=
  sublist_of_subset ((sublist_iff_idxOf hlisted).mp hpart).2
    ((sublist_iff_idxOf hlisted).mp hwhole).2 hmem

namespace Schema

/-- The entries that a name adds in its turn; none where it is refused. -/
def added (schema : Schema) (want held : Attributes) (name : String) : List (String × Value) :=
  (schema.changesAt want held name).toOption.getD []

/-- The names that are brought in the turn of a name. -/
def brought (schema : Schema) (want held : Attributes) (name : String) : List String :=
  Entries.names (schema.added want held name)

/-- Of two names, the first is brought in the turn of some name, and the second
is not brought in an earlier turn, nor in that one unless behind it. -/
def Precedes (schema : Schema) (want held : Attributes) (judged : List String)
    (first second : String) : Prop :=
  ∃ turn ∈ judged, first ∈ schema.brought want held turn ∧
    ∀ other ∈ judged, second ∈ schema.brought want held other →
      [turn, other].Sublist judged ∨ (other = turn ∧ first = turn)

/-- No pair takes a name out of its turn: of two partners that are both sent,
the one that is declared first is wanted itself, and no name that is sent is
declared between them. -/
def PairsInTurn (schema : Schema) (updatable : List String) (want changes : Attributes) : Prop :=
  ∀ first second, schema.comparison first = .paired second →
    [first, second].Sublist updatable → first ∈ changes.names → second ∈ changes.names →
      want.contains first = true ∧
        ∀ between ∈ changes.names, ¬ [first, between, second].Sublist updatable

variable {schema : Schema} {updatable : List String} {dependencies : List Dependency}
  {want held changes : Attributes}

/-! ## One turn -/

/-- A name on its own brings itself or nothing. -/
theorem brought_of_single {name : String}
    (hsingle : ∀ partner, schema.comparison name ≠ .paired partner) :
    schema.brought want held name = [] ∨
      want.contains name = true ∧ schema.brought want held name = [name] := by
  cases hentries : schema.changesAt want held name with
  | error fault => simp [brought, added, hentries, Entries.names, Except.toOption]
  | ok entries =>
      have hbrought : schema.brought want held name = Entries.names entries := by
        simp [brought, added, hentries, Except.toOption]
      rw [hbrought, changesAt_of_single hsingle hentries]
      cases hsent : schema.sent want held name with
      | none => exact Or.inl rfl
      | some value =>
          rw [sent_of_single hsingle] at hsent
          obtain ⟨wanted, hwanted, -⟩ := Option.bind_eq_some_iff.mp hsent
          exact Or.inr ⟨Attributes.contains_iff.mpr ⟨wanted, hwanted⟩, rfl⟩

/-- A name in a pair brings itself, if it is wanted and one of the two differs,
and its partner, if there is a value for it. -/
theorem brought_of_paired {name partner : String}
    (hpaired : schema.comparison name = .paired partner) :
    schema.brought want held name =
      if want.contains name && (differs want held name || differs want held partner) then
        name :: if want.contains partner || held.contains partner then [partner] else []
      else
        [] := by
  have hpartner : Entries.names (((want.get? partner).or (held.get? partner)).map
      fun value => (partner, value)).toList =
        if want.contains partner || held.contains partner then [partner] else [] := by
    cases hwanted : want.get? partner <;> cases hheld : held.get? partner <;>
      simp [Attributes.contains, hwanted, hheld, Entries.names]
  rw [brought, added, changesAt_of_paired hpaired, ← hpartner]
  cases hwanted : want.get? name with
  | none => simp [Attributes.contains, hwanted, Except.toOption, Entries.names]
  | some wanted =>
      cases differs want held name || differs want held partner <;>
        simp [Attributes.contains, hwanted, Except.toOption, Entries.names]

/-- A turn brings nothing, or the name whose turn it is and perhaps its partner
behind it. -/
theorem brought_cases (schema : Schema) (want held : Attributes) (name : String) :
    schema.brought want held name = [] ∨
      want.contains name = true ∧ (schema.brought want held name = [name] ∨
        ∃ partner, schema.comparison name = .paired partner ∧
          schema.brought want held name = [name, partner]) := by
  by_cases hsingle : ∀ partner, schema.comparison name ≠ .paired partner
  · rcases brought_of_single hsingle with hnone | ⟨hwanted, hself⟩
    · exact Or.inl hnone
    · exact Or.inr ⟨hwanted, Or.inl hself⟩
  · obtain ⟨partner, hpaired⟩ : ∃ partner, schema.comparison name = .paired partner := by
      simpa using hsingle
    rw [brought_of_paired hpaired]
    split
    · rename_i hturn
      refine Or.inr ⟨(Bool.and_eq_true_iff.mp hturn).1, ?_⟩
      split
      · exact Or.inr ⟨partner, hpaired, rfl⟩
      · exact Or.inl rfl
    · exact Or.inl rfl

section Turns

variable {turn name : String} (hname : name ∈ schema.brought want held turn)

include hname

/-- Only wanted names bring anything. -/
theorem wanted_of_brought : want.contains turn = true := by
  rcases brought_cases schema want held turn with hnone | ⟨hwanted, -⟩
  · rw [hnone] at hname
    cases hname
  · exact hwanted

/-- A name that brings anything brings itself. -/
theorem self_mem_brought : turn ∈ schema.brought want held turn := by
  rcases brought_cases schema want held turn with hnone | ⟨-, hself | ⟨partner, -, hboth⟩⟩
  · rw [hnone] at hname
    cases hname
  · rw [hself]
    exact List.mem_cons_self
  · rw [hboth]
    exact List.mem_cons_self

/-- A name brings itself and its partner only. -/
theorem eq_or_paired_of_brought : name = turn ∨ schema.comparison turn = .paired name := by
  rcases brought_cases schema want held turn with hnone | ⟨-, hself | ⟨partner, hpaired, hboth⟩⟩
  · rw [hnone] at hname
    cases hname
  · rw [hself] at hname
    exact Or.inl (List.mem_singleton.mp hname)
  · rw [hboth] at hname
    rcases List.mem_cons.mp hname with heq | hrest
    · exact Or.inl heq
    · obtain rfl := List.mem_singleton.mp hrest
      exact Or.inr hpaired

/-- A name in a pair is brought in its own turn or in that of its partner. -/
theorem turn_eq_of_paired (hpairs : schema.PairsMutually updatable) (hturn : turn ∈ updatable)
    {partner : String} (hpaired : schema.comparison name = .paired partner) :
    turn = name ∨ turn = partner := by
  rcases eq_or_paired_of_brought hname with heq | hother
  · exact Or.inl heq.symm
  · have hback : schema.comparison name = .paired turn := (hpairs turn hturn name hother).2
    exact Or.inr (Comparison.paired.inj (hback.symm.trans hpaired))

/-- What a name brings, its partner brings as well if it is wanted itself. -/
theorem mem_brought_of_partner {partner : String}
    (hpaired : schema.comparison turn = .paired partner)
    (hback : schema.comparison partner = .paired turn)
    (hwanted : want.contains partner = true) : name ∈ schema.brought want held partner := by
  have hturn : want.contains turn = true := wanted_of_brought hname
  simp only [brought_of_paired hpaired, hturn, hwanted, Bool.true_and, Bool.true_or,
    if_true] at hname
  simp only [brought_of_paired hback, hturn, hwanted, Bool.true_and, Bool.true_or, if_true]
  -- the same two names in the other order
  rw [Bool.or_comm]
  split at hname
  · rename_i hdiffers
    rw [if_pos hdiffers]
    simpa [or_comm] using hname
  · cases hname

end Turns

/-- Of two names that are brought in one turn, the first is the one whose turn
it is. -/
theorem pairwise_brought (schema : Schema) (want held : Attributes) (turn : String) :
    (schema.brought want held turn).Pairwise fun first _ => first = turn := by
  rcases brought_cases schema want held turn with hnone | ⟨-, hself | ⟨partner, -, hboth⟩⟩
  · simp [hnone]
  · simp [hself]
  · simp [hboth]

/-! ## All turns -/

/-- The names that are stored after some turns are those that were brought. -/
theorem mem_names_added {judged : List String} {name : String} :
    name ∈ Entries.names (Entries.merge [] (judged.flatMap (schema.added want held))) ↔
      ∃ turn ∈ judged, name ∈ schema.brought want held turn := by
  have hnames : Entries.names (judged.flatMap (schema.added want held)) =
      judged.flatMap (schema.brought want held) := List.map_flatMap
  rw [Entries.mem_names_merge, hnames, List.mem_flatMap]
  simp [Entries.names]

/-- A turn stores what it brings behind everything that is there, and so the
stored names precede each other. -/
theorem pairwise_precedes (schema : Schema) (want held : Attributes) (judged : List String) :
    (Entries.names (Entries.merge [] (judged.flatMap (schema.added want held)))).Pairwise
      (schema.Precedes want held judged) := by
  -- by induction on the turns taken; each turn adds names that none before it brought
  induction judged using List.reverseRecOn with
  | nil => exact List.Pairwise.nil
  | append_singleton judged turn ih =>
      rw [List.flatMap_append, Entries.merge_append, List.flatMap_singleton]
      have hlate : ∀ early ∈ judged, [early, turn].Sublist (judged ++ [turn]) :=
        fun early hearly => (List.singleton_sublist.mpr hearly).append (List.Sublist.refl [turn])
      have hfresh : ∀ {name : String},
          name ∉ Entries.names
            (Entries.merge [] (judged.flatMap (schema.added want held))) →
          ∀ early ∈ judged, name ∉ schema.brought want held early :=
        fun hnew early hearly hbrought => hnew (mem_names_added.mpr ⟨early, hearly, hbrought⟩)
      refine Entries.pairwise_names_merge (ih.imp ?_) ?_
        ((pairwise_brought schema want held turn).imp_of_mem ?_)
      · rintro first second ⟨early, hearly, hfirst, hlast⟩
        refine ⟨early, List.mem_append_left _ hearly, hfirst, fun other hother hsecond => ?_⟩
        rcases List.mem_append.mp hother with hjudged | hnow
        · rcases hlast other hjudged hsecond with hbehind | hsame
          · exact Or.inl (hbehind.trans (List.sublist_append_left judged [turn]))
          · exact Or.inr hsame
        · obtain rfl := List.mem_singleton.mp hnow
          exact Or.inl (hlate early hearly)
      · intro old hold new hnew hfirst
        obtain ⟨early, hearly, hbrought⟩ := mem_names_added.mp hold
        refine ⟨early, List.mem_append_left _ hearly, hbrought, fun other hother hsecond => ?_⟩
        rcases List.mem_append.mp hother with hjudged | hnow
        · exact absurd hsecond (hfresh hfirst other hjudged)
        · obtain rfl := List.mem_singleton.mp hnow
          exact Or.inl (hlate early hearly)
      · intro first second hmem hbehind hturn hne hnew
        refine ⟨turn, List.mem_append_right _ (List.mem_singleton_self turn), hmem,
          fun other hother hsecond => ?_⟩
        rcases List.mem_append.mp hother with hjudged | hnow
        · exact absurd hsecond (hfresh hnew other hjudged)
        · exact Or.inr ⟨List.mem_singleton.mp hnow, hturn⟩

/-! ## The change set -/

/-- A change set stores what the updatable names bring, turn by turn. -/
theorem eq_ofList_of_changes
    (h : schema.changes updatable dependencies want held = .ok changes) :
    changes = .ofList (updatable.flatMap (schema.added want held)) := by
  obtain ⟨-, -, hrest⟩ := bind_eq_ok_iff.mp h
  obtain ⟨found, hfound, hchanges⟩ := bind_eq_ok_iff.mp hrest
  obtain rfl := Except.ok.inj hchanges
  have hadded : updatable.map (schema.added want held) = found := by
    calc
      updatable.map (schema.added want held) =
          (updatable.map (schema.changesAt want held)).map
            fun result => result.toOption.getD [] := by
        rw [List.map_map]
        rfl
      _ = (found.map Except.ok).map fun result => result.toOption.getD [] := by
        rw [mapM_eq_ok_iff.mp hfound]
      _ = found := by simp [Function.comp_def, Except.toOption]
  rw [List.flatMap_def, hadded]

section Changes

variable (h : schema.changes updatable dependencies want held = .ok changes)

include h

theorem mem_names_iff_brought {name : String} :
    name ∈ changes.names ↔ ∃ turn ∈ updatable, name ∈ schema.brought want held turn := by
  rw [eq_ofList_of_changes h]
  exact mem_names_added

/-- A turn that brings anything has its name sent. -/
theorem turn_mem_names {turn name : String} (hturn : turn ∈ updatable)
    (hbrought : name ∈ schema.brought want held turn) : turn ∈ changes.names :=
  (mem_names_iff_brought h).mpr ⟨turn, hturn, self_mem_brought hbrought⟩

/-- A name that comes before another one was brought in a turn before any that
brought the other, unless it was brought in its own turn with the other behind
it. -/
theorem turn_of_before (hlisted : updatable.Nodup) {first second : String}
    (hbefore : [first, second].Sublist changes.names) :
    ∃ turn ∈ updatable, first ∈ schema.brought want held turn ∧
      ∀ other ∈ updatable, second ∈ schema.brought want held other →
        updatable.idxOf turn < updatable.idxOf other ∨ (other = turn ∧ first = turn) := by
  have hordered := pairwise_precedes schema want held updatable
  rw [eq_ofList_of_changes h] at hbefore
  obtain ⟨turn, hturn, hfirst, hlast⟩ := List.pairwise_iff_forall_sublist.mp hordered hbefore
  refine ⟨turn, hturn, hfirst, fun other hother hsecond => ?_⟩
  rcases hlast other hother hsecond with hbehind | hsame
  · exact Or.inl (by simpa using ((sublist_iff_idxOf hlisted).mp hbehind).2)
  · exact Or.inr hsame

variable (hpairs : schema.PairsMutually updatable)

include hpairs

/-- Only updatable names are sent. -/
theorem updatable_of_changes {name : String} (hname : name ∈ changes.names) :
    name ∈ updatable := by
  obtain ⟨turn, hturn, hbrought⟩ := (mem_names_iff_brought h).mp hname
  rcases eq_or_paired_of_brought hbrought with rfl | hpaired
  · exact hturn
  · exact (hpairs turn hturn name hpaired).1

/-- A wanted name brings its partner, if the partner is sent at all. -/
theorem partner_mem_brought {name partner : String} (hname : name ∈ updatable)
    (hpaired : schema.comparison name = .paired partner) (hwanted : want.contains name = true)
    (hsent : partner ∈ changes.names) : partner ∈ schema.brought want held name := by
  obtain ⟨turn, hturn, hbrought⟩ := (mem_names_iff_brought h).mp hsent
  have hback : schema.comparison partner = .paired name := (hpairs name hname partner hpaired).2
  rcases turn_eq_of_paired hbrought hpairs hturn hback with rfl | rfl
  · exact mem_brought_of_partner hbrought hback hpaired hwanted
  · exact hbrought

variable (hlisted : updatable.Nodup)

include hlisted

/-- Where no pair takes a name out of its turn, each name is brought in its own
turn or ahead of it. -/
theorem brought_in_turn (hturns : schema.PairsInTurn updatable want changes) {name : String}
    (hname : name ∈ changes.names) :
    ∃ turn ∈ updatable, name ∈ schema.brought want held turn ∧
      updatable.idxOf turn ≤ updatable.idxOf name := by
  obtain ⟨turn, hturn, hbrought⟩ := (mem_names_iff_brought h).mp hname
  by_cases hle : updatable.idxOf turn ≤ updatable.idxOf name
  · exact ⟨turn, hturn, hbrought, hle⟩
  · -- its partner brought it behind its turn, but it is wanted and has come by then
    rcases eq_or_paired_of_brought hbrought with rfl | hpaired
    · exact absurd (Nat.le_refl _) hle
    · obtain ⟨hupdatable, hback⟩ := hpairs turn hturn name hpaired
      have hdeclared : [name, turn].Sublist updatable := by
        rw [sublist_iff_idxOf hlisted]
        simp [hupdatable, hturn, Nat.lt_of_not_le hle]
      have hsent : turn ∈ changes.names := turn_mem_names h hturn hbrought
      have hwanted : want.contains name = true := (hturns name turn hback hdeclared hname hsent).1
      exact ⟨name, hupdatable, mem_brought_of_partner hbrought hpaired hback hwanted, le_rfl⟩

/-- Where no pair takes a name out of its turn, the names come in the declared
order. -/
theorem names_sublist_of_pairsInTurn (hturns : schema.PairsInTurn updatable want changes) :
    changes.names.Sublist updatable := by
  refine (sublist_iff_idxOf hlisted).mpr ⟨fun name => updatable_of_changes h hpairs, ?_⟩
  refine List.pairwise_iff_forall_sublist.mpr fun {first second} hbefore => ?_
  obtain ⟨hfirst, hsecond⟩ : first ∈ changes.names ∧ second ∈ changes.names := by
    simpa using hbefore.subset
  obtain ⟨turn, hturn, hbrought, hlast⟩ := turn_of_before h hlisted hbefore
  obtain ⟨other, hother, hlate, hle⟩ := brought_in_turn h hpairs hlisted hturns hsecond
  have hdistinct : first ≠ second := by
    simpa using (distinct_of_changes h).sublist hbefore
  have hne : updatable.idxOf first ≠ updatable.idxOf second := fun heq =>
    hdistinct ((List.idxOf_inj (updatable_of_changes h hpairs hfirst)).mp heq)
  rcases hlast other hother hlate with hlt | ⟨rfl, rfl⟩
  · by_contra hnot
    -- the first name is declared last, so a partner brought it ahead of its turn
    rcases eq_or_paired_of_brought hbrought with rfl | hpaired
    · omega
    · have hdeclared : [turn, second, first].Sublist updatable := by
        rw [sublist_iff_idxOf hlisted]
        refine ⟨by simp [hturn, updatable_of_changes h hpairs hfirst,
          updatable_of_changes h hpairs hsecond], ?_⟩
        simp only [List.pairwise_cons, List.mem_cons, List.not_mem_nil, or_false]
        grind
      have hpair : [turn, first].Sublist updatable :=
        (((List.Sublist.refl [first]).cons second).cons_cons turn).trans hdeclared
      have hsent : turn ∈ changes.names := turn_mem_names h hturn hbrought
      exact (hturns turn first hpaired hpair hsent hfirst).2 second hsecond hdeclared
  · omega

section InOrder

variable (hnames : changes.names.Sublist updatable) {first second : String}
  (hpaired : schema.comparison first = .paired second)
  (hdeclared : [first, second].Sublist updatable)
  (hfirst : first ∈ changes.names) (hsecond : second ∈ changes.names)

include hnames hpaired hdeclared hfirst hsecond

/-- A name that is sent ahead of its partner is wanted. -/
theorem wanted_of_names_sublist : want.contains first = true := by
  have hbefore : [first, second].Sublist changes.names :=
    sublist_of_sublists hlisted hdeclared hnames (by simp [hfirst, hsecond])
  obtain ⟨turn, hturn, hbrought, hlast⟩ := turn_of_before h hlisted hbefore
  rcases turn_eq_of_paired hbrought hpairs hturn hpaired with rfl | rfl
  · exact wanted_of_brought hbrought
  · -- in the turn of its partner it would be behind the partner
    have hne : first ≠ turn := by
      simpa using hlisted.sublist hdeclared
    rcases hlast turn hturn (self_mem_brought hbrought) with hbehind | ⟨-, heq⟩
    · exact absurd hbehind (Nat.lt_irrefl _)
    · exact absurd heq hne

/-- Nothing is sent that is declared between a name and its partner. -/
theorem not_between_of_names_sublist {between : String} (hbetween : between ∈ changes.names) :
    ¬ [first, between, second].Sublist updatable := by
  intro htriple
  have hsent : [first, between, second].Sublist changes.names :=
    sublist_of_sublists hlisted htriple hnames (by simp [hfirst, hbetween, hsecond])
  have hplaces : updatable.idxOf first < updatable.idxOf between ∧
      updatable.idxOf between < updatable.idxOf second := by
    have hpairwise := ((sublist_iff_idxOf hlisted).mp htriple).2
    grind
  have hfirstListed : first ∈ updatable := hnames.subset hfirst
  have hwanted : want.contains first = true :=
    wanted_of_names_sublist h hpairs hlisted hnames hpaired hdeclared hfirst hsecond
  -- the partner comes along in the turn of the first name, so a name ahead of
  -- the partner was brought before that turn
  obtain ⟨early, hearly, hbrings, hlast⟩ :=
    turn_of_before h hlisted ((List.sublist_cons_self first _).trans hsent)
  have hbefore : updatable.idxOf early < updatable.idxOf first := by
    rcases hlast first hfirstListed (partner_mem_brought h hpairs hfirstListed hpaired hwanted hsecond)
      with hlt | ⟨rfl, rfl⟩
    · exact hlt
    · omega
  -- but a name behind the first one was not
  obtain ⟨turn, hturn, hbrought, hafter⟩ :=
    turn_of_before h hlisted ((List.sublist_append_left [first, between] [second]).trans hsent)
  have hnotBefore : updatable.idxOf first ≤ updatable.idxOf turn := by
    rcases turn_eq_of_paired hbrought hpairs hturn hpaired with rfl | rfl
    · exact Nat.le_refl _
    · omega
  rcases hafter early hearly hbrings with hlate | ⟨rfl, -⟩
  · omega
  · omega

end InOrder

/-- The names of a change set come in the declared order exactly when no pair
takes a name out of its turn. -/
theorem names_sublist_iff :
    changes.names.Sublist updatable ↔ schema.PairsInTurn updatable want changes := by
  constructor
  · intro hnames first second hpaired hdeclared hfirst hsecond
    exact ⟨wanted_of_names_sublist h hpairs hlisted hnames hpaired hdeclared hfirst hsecond,
      fun between hbetween =>
        not_between_of_names_sublist h hpairs hlisted hnames hpaired hdeclared hfirst hsecond
          hbetween⟩
  · exact names_sublist_of_pairsInTurn h hpairs hlisted

end Changes

/-- The low end of the sample is wanted, and the high end comes along behind it. -/
theorem eachChanged_in_order :
    (oneOfEach.PairsMutually oneOfEach.names ∧ oneOfEach.names.Nodup ∧
        oneOfEach.changes oneOfEach.names [] eachWanted eachHeld = .ok eachChanged) ∧
      eachChanged.names.Sublist oneOfEach.names ∧
        oneOfEach.PairsInTurn oneOfEach.names eachWanted eachChanged := by
  have hnodup : oneOfEach.names.Nodup := by decide
  have hchanges :
      oneOfEach.changes oneOfEach.names [] eachWanted eachHeld = .ok eachChanged := rfl
  have hnames : eachChanged.names.Sublist oneOfEach.names := by decide
  exact ⟨⟨pairsMutually_oneOfEach, hnodup, hchanges⟩, hnames,
    (names_sublist_iff hchanges pairsMutually_oneOfEach hnodup).mp hnames⟩

/-- Where only the high end is wanted, it comes ahead of the low one. -/
theorem highEnd_out_of_order :
    oneOfEach.PairsMutually oneOfEach.names ∧ oneOfEach.names.Nodup ∧
      oneOfEach.changes oneOfEach.names [] ⟨[("high", .int 40)]⟩ eachHeld =
        .ok ⟨[("high", .int 40), ("low", .int 5)]⟩ ∧
      ¬ ["high", "low"].Sublist oneOfEach.names :=
  ⟨pairsMutually_oneOfEach, by decide, rfl, by decide⟩

end Schema
end DesiredState
