import DesiredState.Device.Offline
import DesiredState.Pass
import DesiredState.Proofs.ResourceKind
import DesiredState.Proofs.Schema.Want

/-!
# Pairs that exclude each other

A kind of resource may have pairs of names that must not come together.  A
conflicting pair is judged on what the caller gave, whatever the values; an
exclusive pair on what the caller means, so that a name which is given to be
cleared does not count.  The two checks stand on either side of normalization,
and other refusals may come before each of them.

* `ResourceKind.Violated` — a pair that the parameters violate, in terms of the
  caller's names and of the normal forms of their values;
* `ResourceKind.PairRefused` — one of the two checks is reached, and refuses;
* `GivenLast` — which member of a pair the caller gave last;
* `pairs_exclude` — parameters that violate a pair are refused before anything is
  asked of a device, the checks refuse no others, and what they blame is the
  member that was given last.
-/

namespace DesiredState

/-- A name is given with a value that means something other than clearing. -/
def Schema.Sets (schema : Schema) (params : Attributes) (partition name : String) : Prop :=
  ∃ value, schema.meaning? params partition name = some value ∧ value.isClear = false

/-- Only what the caller gave has a meaning. -/
theorem Schema.Sets.mem_names {schema : Schema} {params : Attributes} {partition name : String}
    (h : schema.Sets params partition name) : name ∈ params.names := by
  obtain ⟨value, hvalue, -⟩ := h
  obtain ⟨field, -, hfield⟩ := Option.bind_eq_some_iff.mp hvalue
  obtain ⟨given, hgiven, -⟩ := Option.bind_eq_some_iff.mp hfield
  exact Attributes.mem_names_iff.mpr ⟨given, hgiven⟩

/-- Of a pair the member that a caller gave last: the other one came before it. -/
def GivenLast (supplied : List String) (pair : String × String) (blamed : String) : Prop :=
  ∃ earlier later, supplied = earlier ++ blamed :: later ∧ blamed ∉ earlier ∧
    (blamed = pair.2 ∧ pair.1 ∈ earlier ∨
      blamed = pair.1 ∧ (pair.2 ∈ earlier ∨ pair.2 = pair.1))

namespace ResourceKind

variable {kind : ResourceKind} {partition : String} {params want : Attributes}
  {target : Target} {fault : Fault}

/-- A pair that some parameters violate. -/
inductive Violated (kind : ResourceKind) (partition : String) (params : Attributes)
    (pair : String × String) : Prop
  /-- Both members of a conflicting pair are given. -/
  | conflicting (hpair : pair ∈ kind.conflicting) (hfirst : params.contains pair.1 = true)
      (hsecond : params.contains pair.2 = true)
  /-- Both members of an exclusive pair are given with values that mean something. -/
  | exclusive (hpair : pair ∈ kind.exclusive)
      (hfirst : kind.schema.Sets params partition pair.1)
      (hsecond : kind.schema.Sets params partition pair.2)

/-! ## The checks -/

/-- Refuses conflicting pairs. -/
def checkConflicting (kind : ResourceKind) (params : Attributes) : Except Fault Unit :=
  refusePair params.names kind.conflicting fun a b => params.contains a && params.contains b

/-- Refuses exclusive pairs. -/
def checkExclusive (kind : ResourceKind) (params want : Attributes) : Except Fault Unit :=
  refusePair params.names kind.exclusive fun a b => want.isSet a && want.isSet b

/-- The checks of a want map, in order. -/
theorem want_eq (kind : ResourceKind) (partition : String) (params : Attributes)
    (target : Target) :
    kind.want partition params target = (do
      kind.checkTarget target
      kind.checkConflicting params
      let want ← kind.schema.want params partition
      kind.checkExclusive params want
      kind.validate want
      return want) :=
  rfl

/-- One of the two checks of pairs is reached, and refuses. -/
inductive PairRefused (kind : ResourceKind) (partition : String) (params : Attributes)
    (fault : Fault) : Prop
  | conflicting (hrefused : kind.checkConflicting params = .error fault)
  | exclusive {want : Attributes} (hpassed : kind.checkConflicting params = .ok ())
      (hwant : kind.schema.want params partition = .ok want)
      (hrefused : kind.checkExclusive params want = .error fault)

/-- A supported target lets the refusal of a pair through. -/
theorem PairRefused.want_eq_error (h : kind.PairRefused partition params fault)
    (htarget : kind.supports target = true) :
    kind.want partition params target = .error fault := by
  have hchecked : kind.checkTarget target = .ok () := if_pos htarget
  rw [want_eq, hchecked]
  cases h with
  | conflicting hrefused =>
      rw [hrefused]
      rfl
  | exclusive hpassed hwant hrefused =>
      rw [hpassed, hwant]
      change (kind.checkExclusive params _ >>= _) = _
      rw [hrefused]
      rfl

/-! ## What is blamed -/

/-- What comes before the first place of a name is what stands earlier. -/
theorem idxOf_lt_iff_mem {earlier : List String} {name : String} (hfresh : name ∉ earlier)
    (later : List String) (other : String) :
    (earlier ++ name :: later).idxOf other < (earlier ++ name :: later).idxOf name ↔
      other ∈ earlier := by
  rw [List.idxOf_append, List.idxOf_append, if_neg hfresh, List.idxOf_cons_self, Nat.zero_add]
  split
  · rename_i hmem
    exact ⟨fun _ => hmem, fun _ => List.idxOf_lt_length_iff.mpr hmem⟩
  · rename_i hmem
    exact ⟨fun hlt => absurd hlt (by omega), fun hearlier => absurd hearlier hmem⟩

/-- Of a pair of given names the one that was given last is blamed. -/
theorem exists_blamed {supplied : List String} {pair : String × String}
    (hfirst : pair.1 ∈ supplied) (hsecond : pair.2 ∈ supplied) :
    ∃ blamed, GivenLast supplied pair blamed ∧
      pairRefused supplied pair = .validation blamed
        s!"parameters are mutually exclusive: {pair.1}|{pair.2}" := by
  obtain ⟨a, b⟩ := pair
  obtain ⟨earlier, later, rfl, hfresh⟩ := List.eq_append_cons_of_mem hsecond
  have hbefore := idxOf_lt_iff_mem hfresh later a
  unfold pairRefused
  dsimp only
  by_cases hmem : a ∈ earlier
  · rw [if_pos (hbefore.mpr hmem)]
    exact ⟨b, ⟨earlier, later, rfl, hfresh, Or.inl ⟨rfl, hmem⟩⟩, rfl⟩
  · rw [if_neg (mt hbefore.mp hmem)]
    refine ⟨a, ?_, rfl⟩
    by_cases heq : a = b
    · subst heq
      exact ⟨earlier, later, rfl, hmem, Or.inr ⟨rfl, Or.inr rfl⟩⟩
    · -- the first place of the one is behind that of the other
      have hlater : a ∈ later := by simpa [hmem, heq] using hfirst
      obtain ⟨between, rest, rfl, hbetween⟩ := List.eq_append_cons_of_mem hlater
      exact ⟨earlier ++ b :: between, rest, by simp, by simp [hmem, heq, hbetween],
        Or.inr ⟨rfl, Or.inl (by simp)⟩⟩

/-! ## Which pair is refused -/

/-- A refusal is that of a pair with the property. -/
theorem pair_of_refusePair {supplied : List String} {pairs : List (String × String)}
    {together : String → String → Bool}
    (h : refusePair supplied pairs together = .error fault) :
    ∃ pair ∈ pairs, together pair.1 pair.2 = true ∧ fault = pairRefused supplied pair := by
  unfold refusePair at h
  split at h
  · rename_i pair hfound
    have htogether := List.find?_some hfound
    exact ⟨pair, List.mem_of_find?_eq_some hfound, htogether, (Except.error.inj h).symm⟩
  · cases h

theorem isSet_of_want_iff (h : kind.schema.want params partition = .ok want) (name : String) :
    want.isSet name = true ↔ kind.schema.Sets params partition name := by
  rw [Attributes.isSet, Schema.get?_of_want h, Option.any_eq_true]
  simp [Schema.Sets]

/-- A pair that is refused is violated, and the member that was given last is
blamed. -/
theorem PairRefused.exists_violated (h : kind.PairRefused partition params fault) :
    ∃ pair blamed, kind.Violated partition params pair ∧
      GivenLast params.names pair blamed ∧
      fault = .validation blamed s!"parameters are mutually exclusive: {pair.1}|{pair.2}" := by
  cases h with
  | conflicting hrefused =>
      obtain ⟨pair, hpair, htogether, rfl⟩ := pair_of_refusePair hrefused
      obtain ⟨hfirst, hsecond⟩ := Bool.and_eq_true_iff.mp htogether
      obtain ⟨blamed, hlast, hfault⟩ := exists_blamed
        (Attributes.mem_names_iff.mpr (Attributes.contains_iff.mp hfirst))
        (Attributes.mem_names_iff.mpr (Attributes.contains_iff.mp hsecond))
      exact ⟨pair, blamed, .conflicting hpair hfirst hsecond, hlast, hfault⟩
  | exclusive hpassed hwant hrefused =>
      obtain ⟨pair, hpair, htogether, rfl⟩ := pair_of_refusePair hrefused
      obtain ⟨hfirst, hsecond⟩ := Bool.and_eq_true_iff.mp htogether
      have hfirst := (isSet_of_want_iff hwant pair.1).mp hfirst
      have hsecond := (isSet_of_want_iff hwant pair.2).mp hsecond
      obtain ⟨blamed, hlast, hfault⟩ := exists_blamed hfirst.mem_names hsecond.mem_names
      exact ⟨pair, blamed, .exclusive hpair hfirst hsecond, hlast, hfault⟩

/-! ## What is refused -/

theorem kind_of_checkTarget (h : kind.checkTarget target = .error fault) :
    fault.kind = .validation := by
  unfold checkTarget at h
  split at h
  · cases h
  · rw [← Except.error.inj h]
    rfl

/-- Parameters that pass both checks violate no pair. -/
theorem not_violated_of_passed (hconflicting : kind.checkConflicting params = .ok ())
    (hwant : kind.schema.want params partition = .ok want)
    (hexclusive : kind.checkExclusive params want = .ok ()) (pair : String × String) :
    ¬kind.Violated partition params pair := by
  intro h
  cases h with
  | conflicting hpair hfirst hsecond =>
      have hapart := refusePair_eq_ok hconflicting pair hpair
      rw [hfirst, hsecond] at hapart
      cases hapart
  | exclusive hpair hfirst hsecond =>
      have hapart := refusePair_eq_ok hexclusive pair hpair
      rw [(isSet_of_want_iff hwant pair.1).mpr hfirst,
        (isSet_of_want_iff hwant pair.2).mpr hsecond] at hapart
      cases hapart

/-- Parameters that violate a pair are refused, by one of its checks or by one
that comes before it. -/
theorem want_of_violated {pair : String × String}
    (h : kind.Violated partition params pair) (target : Target) :
    ∃ fault, fault.kind = .validation ∧
      kind.want partition params target = .error fault := by
  rw [want_eq]
  cases htarget : kind.checkTarget target with
  | error fault => exact ⟨fault, kind_of_checkTarget htarget, rfl⟩
  | ok _ =>
      cases hconflicting : kind.checkConflicting params with
      | error fault =>
          obtain ⟨other, -, -, rfl⟩ := pair_of_refusePair hconflicting
          exact ⟨_, rfl, rfl⟩
      | ok _ =>
          cases hwant : kind.schema.want params partition with
          | error fault =>
              obtain ⟨name, -, detail, rfl⟩ := Schema.fault_of_want hwant
              exact ⟨_, rfl, rfl⟩
          | ok want =>
              change ∃ fault : Fault, fault.kind = .validation ∧
                (kind.checkExclusive params want >>= _) = .error fault
              cases hexclusive : kind.checkExclusive params want with
              | error fault =>
                  obtain ⟨other, -, -, rfl⟩ := pair_of_refusePair hexclusive
                  exact ⟨_, rfl, rfl⟩
              | ok _ => exact absurd h (not_violated_of_passed hconflicting hwant hexclusive pair)

end ResourceKind

namespace Pass

/-- A refused pass makes no request and changes nothing. -/
theorem run_of_refused {pass : Pass} {params : Attributes} {fault : Fault}
    (h : pass.kind.want pass.key.partition params pass.target = .error fault) {σ : Type}
    (device : Device σ) (state : σ) :
    (pass.reconcile params).run device state = ⟨some (.error ⟨false, fault⟩), state, []⟩ := by
  rw [reconcile, h]
  rfl

/-- Parameters that violate a pair are refused with a validation fault, before
anything is asked of the device; where no pair is violated, neither of the two
checks refuses; and what a check blames is the member of a violated pair that the
caller gave last. -/
theorem pairs_exclude (pass : Pass) (params : Attributes) :
    (∀ pair, pass.kind.Violated pass.key.partition params pair →
        ∃ fault, fault.kind = .validation ∧
          ∀ {σ : Type} (device : Device σ) (state : σ),
            (pass.reconcile params).run device state =
              ⟨some (.error ⟨false, fault⟩), state, []⟩) ∧
      ((∀ pair, ¬pass.kind.Violated pass.key.partition params pair) →
        pass.kind.checkConflicting params = .ok () ∧
          ∀ want, pass.kind.schema.want params pass.key.partition = .ok want →
            pass.kind.checkExclusive params want = .ok ()) ∧
      ∀ fault, pass.kind.PairRefused pass.key.partition params fault →
        (∃ pair blamed, pass.kind.Violated pass.key.partition params pair ∧
            GivenLast params.names pair blamed ∧
            fault = .validation blamed
              s!"parameters are mutually exclusive: {pair.1}|{pair.2}") ∧
          (pass.kind.supports pass.target = true →
            ∀ {σ : Type} (device : Device σ) (state : σ),
              (pass.reconcile params).run device state =
                ⟨some (.error ⟨false, fault⟩), state, []⟩) := by
  refine ⟨fun pair h => ?_, fun h => ?_, fun fault h => ?_⟩
  · obtain ⟨fault, hkind, hwant⟩ := ResourceKind.want_of_violated h pass.target
    exact ⟨fault, hkind, run_of_refused hwant⟩
  · have hnever : ∀ fault, ¬pass.kind.PairRefused pass.key.partition params fault := by
      intro fault hrefused
      obtain ⟨pair, -, hviolated, -⟩ := hrefused.exists_violated
      exact h pair hviolated
    have hpassed : pass.kind.checkConflicting params = .ok () := by
      cases hconflicting : pass.kind.checkConflicting params with
      | ok _ => rfl
      | error fault => exact absurd (.conflicting hconflicting) (hnever fault)
    refine ⟨hpassed, fun want hwant => ?_⟩
    cases hexclusive : pass.kind.checkExclusive params want with
    | ok _ => rfl
    | error fault => exact absurd (.exclusive hpassed hwant hexclusive) (hnever fault)
  · exact ⟨h.exists_violated, fun htarget => run_of_refused (h.want_eq_error htarget)⟩

/-! ## A sample -/

/-- A pass on a kind with a conflicting pair and an exclusive one. -/
def guarded : Pass where
  kind := {
    name := "net/self"
    schema := ⟨[Field.flag "allow_all", Field.text "defaults", Field.list "enabled_vlans",
      Field.list "disabled_vlans"]⟩
    conflicting := [("allow_all", "defaults")]
    exclusive := [("enabled_vlans", "disabled_vlans")] }
  key := ⟨"net/self", "Common", "self1"⟩
  target := .present
  patience := 0

/-- Both lists are given, and mean something. -/
def fencedTwice : Attributes := ⟨[
  ("disabled_vlans", .text "outside"), ("allow_all", .flag true),
  ("enabled_vlans", .list ["inside"])]⟩

/-- One of the two lists is given to be cleared. -/
def fencedOnce : Attributes := ⟨[
  ("disabled_vlans", .text "none"), ("allow_all", .flag true),
  ("enabled_vlans", .list ["inside"])]⟩

/-- The conflicting pair is given, with a text that asks for clearing. -/
def allowedTwice : Attributes := ⟨[("allow_all", .flag false), ("defaults", .text "")]⟩

/-- What is said of two lists that exclude each other. -/
def fencedFault : Fault :=
  .validation "enabled_vlans" "parameters are mutually exclusive: enabled_vlans|disabled_vlans"

/-- Of the samples only the one that has a list to clear passes the checks of
pairs. -/
theorem guarded_excludes :
    (guarded.kind.Violated "Common" fencedTwice ("enabled_vlans", "disabled_vlans") ∧
        guarded.kind.PairRefused "Common" fencedTwice fencedFault ∧
        GivenLast fencedTwice.names ("enabled_vlans", "disabled_vlans") "enabled_vlans" ∧
        (guarded.reconcile fencedTwice).run Device.offline ⟨.empty, []⟩ =
          ⟨some (.error ⟨false, fencedFault⟩), ⟨.empty, []⟩, []⟩) ∧
      (guarded.kind.Violated "Common" allowedTwice ("allow_all", "defaults") ∧
        ∃ fault, fault.kind = .validation ∧
          (guarded.reconcile allowedTwice).run Device.offline ⟨.empty, []⟩ =
            ⟨some (.error ⟨false, fault⟩), ⟨.empty, []⟩, []⟩) ∧
      (∀ pair, ¬guarded.kind.Violated "Common" fencedOnce pair) ∧
        guarded.kind.checkConflicting fencedOnce = .ok () ∧
        ∃ want, guarded.kind.schema.want fencedOnce "Common" = .ok want ∧
          guarded.kind.checkExclusive fencedOnce want = .ok () := by
  obtain ⟨-, -, hblamed⟩ := pairs_exclude guarded fencedTwice
  obtain ⟨hallowed, -, -⟩ := pairs_exclude guarded allowedTwice
  obtain ⟨-, hpassed, -⟩ := pairs_exclude guarded fencedOnce
  have htwice : guarded.kind.Violated "Common" fencedTwice ("enabled_vlans", "disabled_vlans") :=
    .exclusive List.mem_cons_self ⟨.list ["inside"], rfl, rfl⟩ ⟨.list ["outside"], rfl, rfl⟩
  have hrefused : guarded.kind.PairRefused "Common" fencedTwice fencedFault :=
    .exclusive rfl rfl rfl
  have hboth : guarded.kind.Violated "Common" allowedTwice ("allow_all", "defaults") :=
    .conflicting List.mem_cons_self rfl rfl
  have honce : ∀ pair, ¬guarded.kind.Violated "Common" fencedOnce pair := by
    rintro pair (⟨hpair, -, hsecond⟩ | ⟨hpair, -, hsecond⟩)
    · obtain rfl := List.mem_singleton.mp hpair
      cases hsecond
    · obtain rfl := List.mem_singleton.mp hpair
      obtain ⟨value, hvalue, hmeans⟩ := hsecond
      obtain rfl : .list [] = value := Option.some.inj hvalue
      cases hmeans
  obtain ⟨fault, hkind, hrun⟩ := hallowed _ hboth
  have hlast : GivenLast fencedTwice.names ("enabled_vlans", "disabled_vlans") "enabled_vlans" :=
    ⟨["disabled_vlans", "allow_all"], [], rfl, by decide, by decide⟩
  exact ⟨⟨htwice, hrefused, hlast, (hblamed _ hrefused).2 rfl _ _⟩,
    ⟨hboth, fault, hkind, hrun _ _⟩, honce, (hpassed honce).1,
    _, rfl, (hpassed honce).2 _ rfl⟩

end Pass
end DesiredState
