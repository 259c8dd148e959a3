import DesiredState.Aliases
import DesiredState.Proofs.Attributes
import DesiredState.Proofs.Attributes.Sameness
import Mathlib.Data.List.Induction

/-!
# Maps and their histories

However a map is made, it comes to setting and unsetting names one after the
other.  Such a history says what the map holds, by the last edit of each name,
and in which order, by the time at which each name came: at the first edit that
set it after it was last unset.

* `Making` lists the operations that make maps; `build` is the map and `history`
  the edits that it comes to.
* `Follows` is what a history says about a map.  An edit keeps it, `Follows.edit`,
  and so every replay of a history has it, `follows_replay`.
* `ordered_finite_map` adds when maps are the same, and that updates associate.
-/

namespace DesiredState
namespace Attributes

/-- What is done to one name. -/
inductive Edit where
  /-- The name is set. -/
  | set (name : String) (value : Value)
  /-- The name is unset, if it was set. -/
  | unset (name : String)
deriving Inhabited, Repr

namespace Edit

/-- The name that is edited. -/
def name : Edit → String
  | .set name _ => name
  | .unset name => name

/-- The value that is set. -/
def value? : Edit → Option Value
  | .set _ value => some value
  | .unset _ => none

/-- The map after the edit. -/
def apply (set : Attributes) : Edit → Attributes
  | .set name value => set.insert name value
  | .unset name => set.erase name

/-- The edits that set some pairs one after the other. -/
def sets (pairs : List (String × Value)) : List Edit :=
  pairs.map fun pair => .set pair.1 pair.2

end Edit

/-- The map that results from a history, oldest edit first. -/
def replay (history : List Edit) : Attributes :=
  history.foldl Edit.apply empty

/-- What the last edit of a name leaves of it. -/
def held (history : List Edit) (name : String) : Option Value :=
  (history.reverse.find? fun edit => edit.name == name).bind Edit.value?

/-- The edit at a time is the first one to set a name since it was last unset. -/
structure CameAt (history : List Edit) (name : String) (time : Nat) : Prop where
  /-- The name is set then. -/
  set : ∃ value, history[time]? = some (.set name value)
  /-- It was not set before. -/
  fresh : held (history.take time) name = none
  /-- It is not unset later. -/
  kept : ∀ edit ∈ history.drop time, edit ≠ .unset name

/-- What a history says about a map: it holds what the last edits leave, each name
once, and in the order in which they came. -/
structure Follows (history : List Edit) (set : Attributes) : Prop where
  /-- No name is there twice. -/
  distinct : set.Distinct
  /-- The values are those of the last edits. -/
  values : ∀ name, set.get? name = held history name
  /-- Each name came at some time. -/
  came : ∀ name ∈ set.names, ∃ time, CameAt history name time
  /-- Of two names the first one came earlier. -/
  order : set.names.Pairwise fun first second => ∀ time later,
    CameAt history first time → CameAt history second later → time < later

/-- The ways in which maps are made. -/
inductive Making where
  /-- Nothing is set. -/
  | empty
  /-- Pairs are collected. -/
  | ofList (pairs : List (String × Value))
  /-- Wire pairs are collected under their logical names. -/
  | logicalSet (table : Aliases) (raw : List (String × Value))
  /-- A name is set. -/
  | insert (making : Making) (name : String) (value : Value)
  /-- A name is unset. -/
  | erase (making : Making) (name : String)
  /-- A map is set over another one. -/
  | update (making changes : Making)
  /-- The listed names are taken out of a map. -/
  | pick (making : Making) (wanted : List String)
deriving Inhabited, Repr

namespace Making

/-- The map that is made. -/
def build : Making → Attributes
  | .empty => Attributes.empty
  | .ofList pairs => Attributes.ofList pairs
  | .logicalSet table raw => table.logicalSet raw
  | .insert making name value => making.build.insert name value
  | .erase making name => making.build.erase name
  | .update making changes => making.build.update changes.build
  | .pick making wanted => making.build.pick wanted

/-- The edits that it comes to.  A map that is collected starts a history of its own. -/
def history : Making → List Edit
  | .empty => []
  | .ofList pairs => Edit.sets pairs
  | .logicalSet table raw =>
      Edit.sets (raw.map fun (wire, value) => (table.toLogical wire, value))
  | .insert making name value => making.history ++ [.set name value]
  | .erase making name => making.history ++ [.unset name]
  | .update making changes => making.history ++ Edit.sets changes.build.entries
  | .pick making wanted =>
      Edit.sets (wanted.filterMap fun name =>
        (making.build.get? name).map fun value => (name, value))

/-- The values that go into a map are well-formed. -/
def Sound : Making → Prop
  | .empty => True
  | .ofList pairs => ∀ pair ∈ pairs, pair.2.WellFormed
  | .logicalSet _ raw => ∀ pair ∈ raw, pair.2.WellFormed
  | .insert making _ value => making.Sound ∧ value.WellFormed
  | .erase making _ => making.Sound
  | .update making changes => making.Sound ∧ changes.Sound
  | .pick making _ => making.Sound

/-- Whether the values that go into a map are well-formed. -/
def decideSound : (making : Making) → Decidable making.Sound
  | .empty => inferInstanceAs (Decidable True)
  | .ofList pairs => inferInstanceAs (Decidable (∀ pair ∈ pairs, pair.2.WellFormed))
  | .logicalSet _ raw => inferInstanceAs (Decidable (∀ pair ∈ raw, pair.2.WellFormed))
  | .insert making _ value =>
      @instDecidableAnd making.Sound value.WellFormed making.decideSound inferInstance
  | .erase making _ => making.decideSound
  | .update making changes =>
      @instDecidableAnd making.Sound changes.Sound making.decideSound changes.decideSound
  | .pick making _ => making.decideSound

instance (making : Making) : Decidable making.Sound :=
  making.decideSound

end Making

/-! ## Edits -/

variable {history : List Edit} {set : Attributes} {name : String} {time later : Nat}

theorem held_append_singleton (history : List Edit) (edit : Edit) (name : String) :
    held (history ++ [edit]) name =
      if edit.name = name then edit.value? else held history name := by
  by_cases hname : edit.name = name
  · simp [held, hname]
  · simp [held, hname]

/-- A name that is set and not unset later is held. -/
theorem exists_held {value : Value} (hset : history[time]? = some (.set name value))
    (hkept : ∀ edit ∈ history.drop time, edit ≠ .unset name) :
    ∃ value, held history name = some value := by
  induction history using List.reverseRecOn with
  | nil => cases hset
  | append_singleton history edit ih =>
      rw [held_append_singleton]
      have htime : time ≤ history.length := by
        have hlt := (List.getElem?_eq_some_iff.mp hset).1
        rw [List.length_append, List.length_singleton] at hlt
        omega
      rw [List.drop_append_of_le_length htime] at hkept
      by_cases hname : edit.name = name
      · rw [if_pos hname]
        subst hname
        cases edit with
        | set known content => exact ⟨content, rfl⟩
        | unset known =>
            exact absurd rfl (hkept (.unset known) (List.mem_append_right _ List.mem_cons_self))
      · rw [if_neg hname]
        have hearlier : time < history.length := by
          refine Nat.lt_of_le_of_ne htime fun heq => hname ?_
          rw [heq, List.getElem?_concat_length] at hset
          rw [Option.some.inj hset, Edit.name]
        rw [List.getElem?_append_left hearlier] at hset
        exact ih hset fun edit hedit => hkept edit (List.mem_append_left _ hedit)

/-! ## When names came -/

theorem CameAt.lt_length (h : CameAt history name time) : time < history.length := by
  obtain ⟨value, hset⟩ := h.set
  exact (List.getElem?_eq_some_iff.mp hset).1

/-- A name that came is fresh at no later time. -/
theorem CameAt.not_lt (h : CameAt history name time) (hlater : CameAt history name later) :
    ¬ time < later := by
  intro hlt
  obtain ⟨value, hset⟩ := h.set
  have htaken : (history.take later)[time]? = some (.set name value) := by
    rw [List.getElem?_take_of_lt hlt, hset]
  obtain ⟨found, hfound⟩ := exists_held htaken fun edit hedit =>
    h.kept edit ((List.take_sublist later history).drop time |>.subset hedit)
  rw [hlater.fresh] at hfound
  cases hfound

/-- A name came at one time only. -/
theorem CameAt.unique (h : CameAt history name time) (hlater : CameAt history name later) :
    time = later :=
  Nat.le_antisymm (Nat.not_lt.mp (hlater.not_lt h)) (Nat.not_lt.mp (h.not_lt hlater))

/-- An edit that does not unset a name leaves the time at which it came. -/
theorem CameAt.append (h : CameAt history name time) {edit : Edit}
    (hedit : edit ≠ .unset name) : CameAt (history ++ [edit]) name time := by
  have hlt := h.lt_length
  obtain ⟨value, hset⟩ := h.set
  refine ⟨⟨value, ?_⟩, ?_, ?_⟩
  · rw [List.getElem?_append_left hlt, hset]
  · rw [List.take_append_of_le_length (Nat.le_of_lt hlt)]
    exact h.fresh
  · rw [List.drop_append_of_le_length (Nat.le_of_lt hlt)]
    intro other hother
    rcases List.mem_append.mp hother with hbefore | hlast
    · exact h.kept other hbefore
    · rw [List.mem_singleton.mp hlast]
      exact hedit

/-- A name that is not held comes when it is set. -/
theorem cameAt_length (hfresh : held history name = none) (value : Value) :
    CameAt (history ++ [.set name value]) name history.length := by
  refine ⟨⟨value, List.getElem?_concat_length⟩, ?_, ?_⟩
  · rw [List.take_left]
    exact hfresh
  · rw [List.drop_left]
    intro edit hedit
    rw [List.mem_singleton.mp hedit]
    exact nofun

/-! ## Replaying -/

theorem follows_nil : Follows [] empty where
  distinct := distinct_empty
  values _ := rfl
  came _ h := nomatch h
  order := List.Pairwise.nil

/-- Names that stay keep the order in which they came. -/
theorem Follows.order_append (h : Follows history set) {edit : Edit} {names : List String}
    (hnames : names.Sublist set.names) (hkept : ∀ name ∈ names, edit ≠ .unset name) :
    names.Pairwise fun first second => ∀ time later,
      CameAt (history ++ [edit]) first time → CameAt (history ++ [edit]) second later →
        time < later := by
  refine (h.order.sublist hnames).imp_of_mem ?_
  intro first second hfirst hsecond horder time later htime hlater
  obtain ⟨before, hbefore⟩ := h.came first (hnames.subset hfirst)
  obtain ⟨after, hafter⟩ := h.came second (hnames.subset hsecond)
  rw [htime.unique (hbefore.append (hkept first hfirst)),
    hlater.unique (hafter.append (hkept second hsecond))]
  exact horder before after hbefore hafter

theorem Follows.insert (h : Follows history set) (name : String) (value : Value) :
    Follows (history ++ [.set name value]) (set.insert name value) where
  distinct := h.distinct.insert name value
  values other := by
    rw [get?_insert, held_append_singleton, h.values]
    rfl
  came other hother := by
    by_cases hmem : other ∈ set.names
    · obtain ⟨time, htime⟩ := h.came other hmem
      exact ⟨time, htime.append nofun⟩
    · obtain rfl := (mem_names_of_insert hother).resolve_right hmem
      exact ⟨history.length, cameAt_length (by rw [← h.values, get?_eq_none_iff.mpr hmem]) value⟩
  order := by
    have hold : set.names.Pairwise fun first second => ∀ time later,
        CameAt (history ++ [.set name value]) first time →
          CameAt (history ++ [.set name value]) second later → time < later :=
      h.order_append (List.Sublist.refl _) nofun
    have hnames : (set.insert name value).names =
        if name ∈ set.names then set.names else set.names ++ [name] :=
      Entries.names_put name value set.entries
    rw [hnames]
    split
    · exact hold
    · rename_i hfresh
      refine List.pairwise_append.mpr ⟨hold, List.pairwise_singleton .., ?_⟩
      intro first hfirst second hsecond time later htime hlater
      obtain rfl := List.mem_singleton.mp hsecond
      -- the names that were there came before, the new one comes last
      obtain ⟨before, hbefore⟩ := h.came first hfirst
      have hnone : held history second = none := by
        rw [← h.values, get?_eq_none_iff.mpr hfresh]
      rw [htime.unique (hbefore.append nofun), hlater.unique (cameAt_length hnone value)]
      exact hbefore.lt_length

theorem Follows.erase (h : Follows history set) (name : String) :
    Follows (history ++ [.unset name]) (set.erase name) := by
  have hnames : (set.erase name).names = set.names.erase name :=
    Entries.names_erase name set.entries
  have hkept : ∀ other ∈ (set.erase name).names, Edit.unset name ≠ .unset other := by
    rintro other hother heq
    obtain rfl := Edit.unset.inj heq
    exact List.Nodup.not_mem_erase h.distinct (hnames ▸ hother)
  refine ⟨h.distinct.erase name, fun other => ?_, fun other hother => ?_, ?_⟩
  · rw [h.distinct.get?_erase, held_append_singleton, h.values]
    rfl
  · obtain ⟨time, htime⟩ := h.came other (mem_names_of_erase hother)
    exact ⟨time, htime.append (hkept other hother)⟩
  · exact h.order_append (hnames ▸ List.erase_sublist) hkept

/-- A map that follows a history follows it after an edit. -/
theorem Follows.edit (h : Follows history set) (edit : Edit) :
    Follows (history ++ [edit]) (edit.apply set) := by
  cases edit with
  | set name value => exact h.insert name value
  | unset name => exact h.erase name

/-- A replay goes on from where an earlier one ended. -/
theorem replay_append (history rest : List Edit) :
    replay (history ++ rest) = rest.foldl Edit.apply (replay history) :=
  List.foldl_append

/-- A history says what its replay is. -/
theorem follows_replay (history : List Edit) : Follows history (replay history) := by
  induction history using List.reverseRecOn with
  | nil => exact follows_nil
  | append_singleton history edit ih =>
      rw [replay_append]
      exact ih.edit edit

/-! ## Makings -/

/-- Setting pairs one after the other is merging them. -/
theorem foldl_sets (set : Attributes) (pairs : List (String × Value)) :
    (Edit.sets pairs).foldl Edit.apply set = ⟨Entries.merge set.entries pairs⟩ := by
  induction pairs generalizing set with
  | nil => rfl
  | cons pair rest ih => exact ih (set.insert pair.1 pair.2)

theorem replay_sets (pairs : List (String × Value)) : replay (Edit.sets pairs) = ofList pairs :=
  foldl_sets empty pairs

/-- A map is what its history comes to. -/
theorem Making.build_eq_replay (making : Making) : making.build = replay making.history := by
  induction making with
  | empty => rfl
  | ofList pairs => exact (replay_sets pairs).symm
  | logicalSet table raw => exact (replay_sets _).symm
  | insert making name value ih =>
      rw [history, replay_append, ← ih]
      rfl
  | erase making name ih =>
      rw [history, replay_append, ← ih]
      rfl
  | update making changes ih _ =>
      rw [history, replay_append, ← ih, foldl_sets]
      rfl
  | pick making wanted _ => exact (replay_sets _).symm

/-! ## Well-formed maps -/

theorem wellFormed_iff : set.WellFormed ↔ Value.WellFormedEntries set.entries :=
  ⟨fun h => ⟨h.distinct, h.values⟩, fun h => ⟨h.1, h.2⟩⟩

theorem wellFormed_empty : empty.WellFormed :=
  ⟨distinct_empty, List.forall_mem_nil _⟩

theorem WellFormed.insert (h : set.WellFormed) (name : String) {value : Value}
    (hvalue : value.WellFormed) : (set.insert name value).WellFormed :=
  wellFormed_iff.mpr ((wellFormed_iff.mp h).put name hvalue)

theorem WellFormed.erase (h : set.WellFormed) (name : String) : (set.erase name).WellFormed where
  distinct := h.distinct.erase name
  values entry hentry := h.values entry ((Entries.erase_sublist name set.entries).subset hentry)

theorem WellFormed.update (h : set.WellFormed) {changes : Attributes}
    (hchanges : changes.WellFormed) : (set.update changes).WellFormed :=
  wellFormed_iff.mpr ((wellFormed_iff.mp h).merge hchanges.values)

theorem wellFormed_ofList {pairs : List (String × Value)}
    (h : ∀ pair ∈ pairs, pair.2.WellFormed) : (ofList pairs).WellFormed :=
  wellFormed_iff.mpr ((wellFormed_iff.mp wellFormed_empty).merge h)

/-- What is made of well-formed values is well-formed. -/
theorem Making.Sound.wellFormed {making : Making} (h : making.Sound) :
    making.build.WellFormed := by
  induction making with
  | empty => exact wellFormed_empty
  | ofList pairs => exact wellFormed_ofList h
  | logicalSet table raw =>
      refine wellFormed_ofList fun pair hpair => ?_
      obtain ⟨entry, hentry, rfl⟩ := List.mem_map.mp hpair
      exact h entry hentry
  | insert making name value ih => exact (ih h.1).insert name h.2
  | erase making name ih => exact (ih h).erase name
  | update making changes ih ihchanges => exact (ih h.1).update (ihchanges h.2)
  | pick making wanted ih =>
      refine wellFormed_ofList fun pair hpair => ?_
      obtain ⟨name, -, hname⟩ := List.mem_filterMap.mp hpair
      obtain ⟨value, hvalue, rfl⟩ := Option.map_eq_some_iff.mp hname
      exact (ih h).get? hvalue

/-- A map is an ordered finite map.  However it is made, its names are distinct, each
has the value that was set last since it was unset, and they stand in the order in
which they came; well-formed maps are the same when they set the same names to values
that are alike, which is an equivalence; and updates associate, order included. -/
theorem ordered_finite_map :
    (∀ making : Making, Follows making.history making.build) ∧
    (∀ making : Making, making.Sound → making.build.WellFormed) ∧
    (∀ set other : Attributes, set.WellFormed → other.WellFormed →
      (set.same other = true ↔ set.Alike other)) ∧
    Equivalence (fun set other : {set : Attributes // set.WellFormed} =>
      set.val.same other.val = true) ∧
    ∀ base middle changes : Attributes, middle.Distinct →
      (base.update middle).update changes = base.update (middle.update changes) := by
  refine ⟨fun making => ?_, fun _ => Making.Sound.wellFormed, fun _ _ => WellFormed.same_iff_alike,
    equivalence_same, fun base middle changes hmiddle => ?_⟩
  · rw [making.build_eq_replay]
    exact follows_replay making.history
  · exact congrArg mk (Entries.merge_assoc hmiddle base.entries changes.entries)

/-- A map from which a name was taken and put back. -/
def movedPort : Making :=
  .insert (.erase (.ofList [("port", .int 80), ("mode", .text "tcp")]) "port") "port" (.int 443)

/-- The same settings as they are collected. -/
def plainPort : Making :=
  .ofList [("port", .int 443), ("mode", .text "tcp")]

/-- The name that was put back stands last, which makes no difference to sameness. -/
theorem movedPort_ordered :
    movedPort.build.names = ["mode", "port"] ∧
      (∀ time later, CameAt movedPort.history "mode" time →
        CameAt movedPort.history "port" later → time < later) ∧
      movedPort.build.get? "port" = some (.int 443) ∧
      movedPort.build.Alike plainPort.build ∧
      (movedPort.build.update plainPort.build).update movedPort.build =
        movedPort.build.update (plainPort.build.update movedPort.build) := by
  obtain ⟨hfollows, hwell, hsame, -, hassoc⟩ := ordered_finite_map
  have hnames : movedPort.build.names = ["mode", "port"] := by decide
  have horder := (hfollows movedPort).order
  rw [hnames] at horder
  have hmoved : movedPort.build.WellFormed := hwell movedPort (by decide)
  have hplain : plainPort.build.WellFormed := hwell plainPort (by decide)
  refine ⟨hnames, ?_, ?_, (hsame _ _ hmoved hplain).mp (by decide), hassoc _ _ _ hplain.distinct⟩
  · exact (List.pairwise_cons.mp horder).1 "port" List.mem_cons_self
  · rw [(hfollows movedPort).values]
    rfl

end Attributes
end DesiredState
