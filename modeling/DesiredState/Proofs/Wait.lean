import DesiredState.Proofs.Conversation
import DesiredState.Wait

/-!
# The calls of a wait

Tracking an operation opens it and then polls under one id: the path of the
resource where it is only watched, the id that the device gave out where it was
submitted, and the label of the operation where the connection was lost on
submission.  The polls go on for as long as the wait bears their replies, and
the wait ends without a fault only where it has borne them all and the last of
them were successes, or where its budget is spent and it is lenient.

`Wait.Seen.Tallies` is the invariant that carries this through the polls: what
a wait has seen is counted off its replies, up to the width of the counts.
`tallies_absorb` is its step, and `branch_follow` follows it along a branch.
No wait is too long for that: a count that has started again is behind the
number of the polls, and so it ends no wait too early.

A call that fails beyond what the wait tolerates is the last one
(`ends_track_of_failure`).
-/

namespace DesiredState

/-- Whether a request is about a job, and not about the attributes of a resource. -/
def Request.isAboutJob : Request → Bool
  | .submit _ _ _ | .poll _ _ => true
  | _ => false

/-- What one poll comes back with. -/
abbrev Sighting : Type := Except Failure Observation

/-- Whether a poll found the job completed. -/
def Sighting.isSuccess : Sighting → Bool
  | .ok observation => observation.progress == .completed
  | .error _ => false

/-- How many polls at the end found the job completed, without a break. -/
def Sighting.successes (sightings : List Sighting) : Nat :=
  (sightings.reverse.takeWhile isSuccess).length

theorem Sighting.successes_append (sightings : List Sighting) (sighting : Sighting) :
    successes (sightings ++ [sighting]) =
      if isSuccess sighting then successes sightings + 1 else 0 := by
  rw [successes, successes, List.reverse_append, List.reverse_singleton, List.singleton_append,
    List.takeWhile_cons]
  split
  · rfl
  · rfl

namespace Wait

open Conversation

/-- Whether a wait goes on, or ends well, after a poll. -/
def bears (wait : Wait) : Sighting → Bool
  | .ok observation =>
      match observation.progress with
      | .failed _ => false
      | _ => true
  | .error failure => wait.tolerates failure

/-- A wait ends without a fault: every poll was borne, and enough successes came
last or the budget of a lenient wait is spent. -/
structure EndsWell (wait : Wait) (sightings : List Sighting) : Prop where
  borne : ∀ sighting ∈ sightings, wait.bears sighting = true
  enough : max 1 wait.confirmations ≤ Sighting.successes sightings ∨
    wait.lenient = true ∧
      wait.isOver sightings.length (sightings.length * wait.interval) = true

/-- The polls of a job under one id. -/
def polled (job : Job) (id : String) (sightings : List Sighting) : List Call :=
  sightings.map fun sighting => ⟨.poll job id, sighting⟩

/-- How an operation is opened, and under which id it is then polled, if it is. -/
inductive Opens (wait : Wait) (operation : Operation) : List Call → Option String → Prop
  | watched (mode : operation.mode = .watch) :
      Opens wait operation [] (some operation.key.path)
  | submitted (mode : operation.mode = .submit) (id : String) :
      Opens wait operation
        [⟨.submit operation.job operation.key operation.payload, .ok id⟩] (some id)
  /-- The connection was lost, and the job may have been taken before that. -/
  | assumed (mode : operation.mode = .submit) {failure : Failure}
      (tolerated : wait.tolerates failure = true) :
      Opens wait operation
        [⟨.submit operation.job operation.key operation.payload, .error failure⟩]
        (some operation.label)
  | refused (mode : operation.mode = .submit) {failure : Failure}
      (fatal : wait.tolerates failure = false) :
      Opens wait operation
        [⟨.submit operation.job operation.key operation.payload, .error failure⟩] none

/-- The calls of one operation, and what its polls came back with unless it was
refused.  It is opened, and then polled for as long as the wait bears it. -/
inductive Tracks (wait : Wait) (operation : Operation) :
    List Call → Option (List Sighting) → Prop
  | polls {opening : List Call} {id : String} {sightings : List Sighting}
      (opens : wait.Opens operation opening (some id))
      (borne : ∀ sighting ∈ sightings.dropLast, wait.bears sighting = true) :
      Tracks wait operation (opening ++ polled operation.job id sightings) (some sightings)
  | refused {opening : List Call} (opens : wait.Opens operation opening none) :
      Tracks wait operation opening none

/-- An operation makes no requests but those about its job. -/
theorem Tracks.isAboutJob {wait : Wait} {operation : Operation} {calls : List Call}
    {polls : Option (List Sighting)} (h : wait.Tracks operation calls polls) :
    ∀ call ∈ calls, call.request.isAboutJob = true := by
  have hopening : ∀ {opening : List Call} {id : Option String},
      wait.Opens operation opening id → ∀ call ∈ opening, call.request.isAboutJob = true := by
    intro opening id hopens
    cases hopens with
    | watched => exact List.forall_mem_nil _
    | submitted | assumed | refused => exact List.forall_mem_singleton.mpr rfl
  intro call hcall
  cases h with
  | polls opens borne =>
      rcases List.mem_append.mp hcall with hopened | hpolled
      · exact hopening opens call hopened
      · obtain ⟨sighting, -, rfl⟩ := List.mem_map.mp hpolled
        rfl
  | refused opens => exact hopening opens call hcall

/-- What a wait has seen, counted off the polls that it has borne. -/
structure Seen.Tallies (wait : Wait) (sightings : List Sighting) (seen : Seen) : Prop where
  polls : seen.polls = UInt32.ofNat sightings.length
  slept : seen.slept = sightings.length * wait.interval
  streak : seen.streak = UInt32.ofNat (Sighting.successes sightings)
  borne : ∀ sighting ∈ sightings, wait.bears sighting = true

variable {wait : Wait} {sightings : List Sighting} {seen : Seen} {sighting : Sighting}
  {calls : List Call} {result : Option (Except Fault Outcome)}

theorem tallies_nil (wait : Wait) : Seen.Tallies wait [] {} :=
  ⟨rfl, (Nat.zero_mul wait.interval).symm, rfl, List.forall_mem_nil _⟩

/-! ## Counts -/

/-- One more poll is counted. -/
theorem Seen.Tallies.polls_polled (h : seen.Tallies wait sightings) (interval : Nat) :
    (seen.polled interval).polls = UInt32.ofNat (sightings.length + 1) := by
  rw [Seen.polled, h.polls]
  exact (UInt32.ofNat_add sightings.length 1).symm

/-- One more success is counted. -/
theorem Seen.Tallies.streak_add_one (h : seen.Tallies wait sightings) :
    seen.streak + 1 = UInt32.ofNat (Sighting.successes sightings + 1) := by
  rw [h.streak]
  exact (UInt32.ofNat_add (Sighting.successes sightings) 1).symm

theorem toNat_ofNat_le (count : Nat) : (UInt32.ofNat count).toNat ≤ count := by
  rw [UInt32.toNat_ofNat']
  exact Nat.mod_le count (2 ^ 32)

/-- More polls and more time leave no more of the budget. -/
theorem isOver_mono {polls slept morePolls moreSlept : Nat} (hpolls : polls ≤ morePolls)
    (hslept : slept ≤ moreSlept) (h : wait.isOver polls slept = true) :
    wait.isOver morePolls moreSlept = true := by
  unfold isOver at h ⊢
  cases hbudget : wait.budget with
  | unbounded =>
      rw [hbudget] at h
      cases h
  | attempts count =>
      rw [hbudget] at h
      exact decide_eq_true (Nat.le_trans (of_decide_eq_true h) hpolls)
  | deadline limit =>
      rw [hbudget] at h
      exact decide_eq_true (Nat.le_trans (of_decide_eq_true h) hslept)

/-- A wait does not run out before its polls have used up the budget. -/
theorem Seen.Tallies.isOver (h : seen.Tallies wait sightings)
    (hover : wait.isOver seen.polls.toNat seen.slept = true) :
    wait.isOver sightings.length (sightings.length * wait.interval) = true := by
  refine isOver_mono ?_ (Nat.le_of_eq h.slept) hover
  rw [h.polls]
  exact toNat_ofNat_le sightings.length

/-! ## One poll -/

theorem borne_append (h : ∀ sighting ∈ sightings, wait.bears sighting = true)
    (hsighting : wait.bears sighting = true) :
    ∀ other ∈ sightings ++ [sighting], wait.bears other = true := by
  intro other hother
  rcases List.mem_append.mp hother with hearlier | hlast
  · exact h other hearlier
  · rwa [List.mem_singleton.mp hlast]

/-- A poll that is borne adds one poll and one interval; what it does to the
streak is left to its reply. -/
theorem Seen.Tallies.polled {next : Seen} (h : seen.Tallies wait sightings)
    (hsighting : wait.bears sighting = true)
    (hpolls : next.polls = (seen.polled wait.interval).polls)
    (hslept : next.slept = (seen.polled wait.interval).slept)
    (hstreak : next.streak = UInt32.ofNat (Sighting.successes (sightings ++ [sighting]))) :
    next.Tallies wait (sightings ++ [sighting]) := by
  refine ⟨?_, ?_, hstreak, borne_append h.borne hsighting⟩
  · rw [hpolls, h.polls_polled, List.length_append, List.length_singleton]
  · rw [hslept, Seen.polled, h.slept, List.length_append, List.length_singleton, Nat.add_mul,
      Nat.one_mul]

/-- A tolerated failure is counted, and it breaks the streak. -/
theorem tallies_absorbOutage {tolerance : Nat} {notices : List Notice} {next : Seen}
    {failure : Failure} (h : seen.Tallies wait sightings)
    (htolerated : wait.tolerates failure = true)
    (habsorb : absorbOutage tolerance (seen.polled wait.interval) = .goOn notices next) :
    next.Tallies wait (sightings ++ [Except.error failure]) := by
  have hbroken : 0 = UInt32.ofNat (Sighting.successes (sightings ++ [Except.error failure])) := by
    rw [Sighting.successes_append]
    rfl
  unfold absorbOutage at habsorb
  dsimp only at habsorb
  split at habsorb
  · cases habsorb
    exact h.polled htolerated rfl rfl hbroken
  · split at habsorb
    · cases habsorb
      exact h.polled htolerated rfl rfl hbroken
    · cases habsorb
      exact h.polled htolerated rfl rfl hbroken

/-- A wait that goes on after a poll has borne it, and has counted it. -/
theorem tallies_absorb {notices : List Notice} {next : Seen} (h : seen.Tallies wait sightings)
    (habsorb : wait.absorb seen sighting = .goOn notices next) :
    next.Tallies wait (sightings ++ [sighting]) := by
  cases sighting with
  | error failure =>
      simp only [absorb] at habsorb
      split at habsorb
      · rename_i htolerated
        exact tallies_absorbOutage h htolerated habsorb
      · cases habsorb
  | ok observation =>
      obtain ⟨progress, value⟩ := observation
      simp only [absorb, absorbObservation] at habsorb
      cases progress with
      | pending =>
          cases habsorb
          refine h.polled rfl rfl rfl ?_
          rw [Sighting.successes_append]
          rfl
      | completed =>
          dsimp only at habsorb
          split at habsorb
          · cases habsorb
          · cases habsorb
            refine h.polled rfl rfl rfl ?_
            rw [Sighting.successes_append]
            exact h.streak_add_one
      | failed detail => cases habsorb

/-- A tolerated failure settles nothing. -/
theorem absorbOutage_ne_settled {tolerance : Nat} {notices : List Notice}
    {settled : Except Fault Outcome} :
    absorbOutage tolerance seen ≠ .settled notices settled := by
  intro habsorb
  unfold absorbOutage at habsorb
  dsimp only at habsorb
  split at habsorb
  · cases habsorb
  · split at habsorb
    · cases habsorb
    · cases habsorb

/-- A wait that a poll settles without a fault has ended well. -/
theorem endsWell_of_settled {notices : List Notice} {outcome : Outcome}
    (h : seen.Tallies wait sightings)
    (habsorb : wait.absorb seen sighting = .settled notices (.ok outcome)) :
    wait.EndsWell (sightings ++ [sighting]) := by
  cases sighting with
  | error failure =>
      simp only [absorb] at habsorb
      split at habsorb
      · exact absurd habsorb absorbOutage_ne_settled
      · cases habsorb
  | ok observation =>
      obtain ⟨progress, value⟩ := observation
      simp only [absorb, absorbObservation] at habsorb
      cases progress with
      | pending => cases habsorb
      | completed =>
          dsimp only at habsorb
          split at habsorb
          · rename_i henough
            refine ⟨borne_append h.borne rfl, Or.inl ?_⟩
            have hsuccesses : Sighting.successes (sightings ++ [Except.ok ⟨.completed, value⟩]) =
                Sighting.successes sightings + 1 := Sighting.successes_append sightings _
            -- a count that has started again is not ahead of the successes
            have hcounted : (seen.streak + 1).toNat ≤ Sighting.successes sightings + 1 := by
              rw [h.streak_add_one]
              exact toNat_ofNat_le (Sighting.successes sightings + 1)
            have hconfirmed : wait.confirmations ≤ (seen.streak + 1).toNat := henough
            rw [hsuccesses]
            omega
          · cases habsorb
      | failed detail => cases habsorb

/-! ## All polls -/

theorem borne_dropLast_cons {later : List Sighting} (hsighting : wait.bears sighting = true)
    (h : ∀ other ∈ later.dropLast, wait.bears other = true) :
    ∀ other ∈ (sighting :: later).dropLast, wait.bears other = true := by
  cases later with
  | nil => exact List.forall_mem_nil _
  | cons next rest =>
      rw [List.dropLast_cons_cons]
      exact List.forall_mem_cons.mpr ⟨hsighting, h⟩

/-- A wait whose budget has run out makes no calls, and only a lenient one ends
without a fault. -/
theorem branch_giveUp {label : String} (htallies : seen.Tallies wait sightings)
    (hover : wait.isOver seen.polls.toNat seen.slept = true)
    (h : (wait.giveUp label seen).Branch calls result) :
    calls = [] ∧ ∀ outcome, result = some (.ok outcome) → wait.EndsWell sightings := by
  unfold giveUp at h
  split at h
  · rename_i hlenient
    obtain ⟨hnil, -⟩ := branch_done_iff.mp (branch_notify_iff.mp h)
    exact ⟨hnil, fun _ _ => ⟨htallies.borne, Or.inr ⟨hlenient, htallies.isOver hover⟩⟩⟩
  · obtain ⟨hnil, rfl⟩ := branch_done_iff.mp (branch_notify_iff.mp h)
    exact ⟨hnil, nofun⟩

/-- What follows after some polls are more polls under the same id, each but the
last of them borne; and a result without a fault is one of a wait that ended
well. -/
theorem branch_follow {label : String} {job : Job} {id : String} {patience : Nat}
    (htallies : seen.Tallies wait sightings)
    (h : (wait.follow label job id patience seen).Branch calls result) :
    ∃ later, calls = polled job id later ∧
      (∀ sighting ∈ later.dropLast, wait.bears sighting = true) ∧
        ∀ outcome, result = some (.ok outcome) → wait.EndsWell (sightings ++ later) := by
  induction patience generalizing seen sightings calls with
  | zero =>
      unfold follow at h
      split at h
      · rename_i hover
        obtain ⟨rfl, hends⟩ := branch_giveUp htallies hover h
        exact ⟨[], rfl, List.forall_mem_nil _, by rwa [List.append_nil]⟩
      · obtain ⟨rfl, rfl⟩ := branch_brokenOff_iff.mp h
        exact ⟨[], rfl, List.forall_mem_nil _, nofun⟩
  | succ left ih =>
      unfold follow at h
      split at h
      · rename_i hover
        obtain ⟨rfl, hends⟩ := branch_giveUp htallies hover h
        exact ⟨[], rfl, List.forall_mem_nil _, by rwa [List.append_nil]⟩
      · obtain ⟨sighting, rest, rfl, hrest⟩ := branch_ask_iff.mp (branch_sleep_iff.mp h)
        cases habsorb : wait.absorb seen sighting with
        | goOn notices next =>
            rw [habsorb] at hrest
            have hnext := tallies_absorb htallies habsorb
            obtain ⟨later, rfl, hborne, hends⟩ := ih hnext (branch_notifyAll_iff.mp hrest)
            have hsighting : wait.bears sighting = true :=
              hnext.borne sighting (List.mem_append_right _ List.mem_cons_self)
            exact ⟨sighting :: later, rfl, borne_dropLast_cons hsighting hborne,
              by rwa [List.append_cons]⟩
        | settled notices settled =>
            rw [habsorb] at hrest
            obtain ⟨rfl, rfl⟩ := branch_done_iff.mp (branch_notifyAll_iff.mp hrest)
            refine ⟨[sighting], rfl, List.forall_mem_nil _, fun outcome hresult => ?_⟩
            rw [Option.some.inj hresult] at habsorb
            exact endsWell_of_settled htallies habsorb

/-! ## Tracking -/

theorem branch_await {operation : Operation} {patience : Nat} {id : String}
    (h : (wait.await operation patience id).Branch calls result) :
    ∃ sightings, calls = polled operation.job id sightings ∧
      (∀ sighting ∈ sightings.dropLast, wait.bears sighting = true) ∧
        ∀ outcome, result = some (.ok outcome) → wait.EndsWell sightings := by
  have hfollow : (wait.follow operation.label operation.job id patience {}).Branch calls
      result := by
    unfold await at h
    dsimp only at h
    split at h
    · exact h
    · exact branch_sleep_iff.mp h
  exact branch_follow (tallies_nil wait) hfollow

/-- Once an operation is opened under an id, it is polled under that id. -/
theorem tracks_of_opens {operation : Operation} {patience : Nat} {opening : List Call}
    {id : String} (hopens : wait.Opens operation opening (some id))
    (h : (wait.await operation patience id).Branch calls result) :
    ∃ polls, wait.Tracks operation (opening ++ calls) polls ∧
      ∀ outcome, result = some (.ok outcome) →
        ∃ sightings, polls = some sightings ∧ wait.EndsWell sightings := by
  obtain ⟨sightings, rfl, hborne, hends⟩ := branch_await h
  exact ⟨some sightings, .polls hopens hborne,
    fun outcome hresult => ⟨sightings, rfl, hends outcome hresult⟩⟩

/-- The calls of an operation that is tracked, which has ended well where there
is a result without a fault. -/
theorem branch_track {operation : Operation} {patience : Nat}
    (h : (wait.track patience operation).Branch calls result) :
    ∃ polls, wait.Tracks operation calls polls ∧
      ∀ outcome, result = some (.ok outcome) →
        ∃ sightings, polls = some sightings ∧ wait.EndsWell sightings := by
  unfold track at h
  cases hmode : operation.mode with
  | watch =>
      rw [hmode] at h
      exact tracks_of_opens (.watched hmode) h
  | submit =>
      rw [hmode] at h
      obtain ⟨reply, rest, rfl, hrest⟩ := branch_ask_iff.mp h
      cases reply with
      | ok id => exact tracks_of_opens (.submitted hmode id) hrest
      | error failure =>
          dsimp only at hrest
          split at hrest
          · rename_i htolerated
            exact tracks_of_opens (.assumed hmode htolerated) (branch_notify_iff.mp hrest)
          · rename_i hfatal
            obtain ⟨rfl, rfl⟩ := branch_done_iff.mp hrest
            exact ⟨none, .refused (.refused hmode (Bool.eq_false_iff.mpr hfatal)), nofun⟩

/-! ## Failures that are not tolerated -/

/-- What a poll that fails beyond tolerance means for a wait. -/
theorem absorb_of_untolerated {failure : Failure} (hstrict : wait.tolerates failure = false) :
    wait.absorb seen (.error failure) = .settled [] (.error failure.fault) :=
  if_neg (Bool.eq_false_iff.mp hstrict)

theorem calls_of_giveUp {label : String} (h : (wait.giveUp label seen).Branch calls result) :
    calls = [] := by
  unfold giveUp at h
  split at h
  · exact (branch_done_iff.mp (branch_notify_iff.mp h)).1
  · exact (branch_done_iff.mp (branch_notify_iff.mp h)).1

variable {earlier later : List Call} {call : Call} {failure : Failure}

/-- A poll that fails beyond tolerance is the last one, and its fault is what
the wait comes to. -/
theorem ends_follow_of_failure {label : String} {job : Job} {id : String} {patience : Nat}
    (h : (wait.follow label job id patience seen).Branch (earlier ++ call :: later) result)
    (hfailed : call.failure? = some failure) (hstrict : wait.tolerates failure = false) :
    later = [] ∧ result = some (.error failure.fault) := by
  have hsome : earlier ++ call :: later ≠ [] := by simp
  induction patience generalizing seen earlier with
  | zero =>
      unfold follow at h
      split at h
      · exact absurd (calls_of_giveUp h) hsome
      · exact absurd (branch_brokenOff_iff.mp h).1 hsome
  | succ left ih =>
      unfold follow at h
      split at h
      · exact absurd (calls_of_giveUp h) hsome
      · obtain ⟨sighting, rest, hcalls, hrest⟩ := branch_ask_iff.mp (branch_sleep_iff.mp h)
        cases earlier with
        | nil =>
            obtain ⟨rfl, rfl⟩ := List.cons.inj hcalls
            cases sighting with
            | ok observation => cases hfailed
            | error other =>
                obtain rfl : other = failure := Option.some.inj hfailed
                rw [absorb_of_untolerated hstrict] at hrest
                exact branch_done_iff.mp hrest
        | cons head between =>
            obtain ⟨-, rfl⟩ := List.cons.inj hcalls
            cases habsorb : wait.absorb seen sighting with
            | goOn notices next =>
                rw [habsorb] at hrest
                exact ih (branch_notifyAll_iff.mp hrest) (by simp)
            | settled notices settled =>
                rw [habsorb] at hrest
                obtain ⟨hnil, -⟩ := branch_done_iff.mp (branch_notifyAll_iff.mp hrest)
                exact absurd hnil (by simp)

theorem ends_await_of_failure {operation : Operation} {patience : Nat} {id : String}
    (h : (wait.await operation patience id).Branch (earlier ++ call :: later) result)
    (hfailed : call.failure? = some failure) (hstrict : wait.tolerates failure = false) :
    later = [] ∧ result = some (.error failure.fault) := by
  unfold await at h
  dsimp only at h
  split at h
  · exact ends_follow_of_failure h hfailed hstrict
  · exact ends_follow_of_failure (branch_sleep_iff.mp h) hfailed hstrict

/-- A call that fails beyond tolerance is the last one of an operation, and its
fault is what tracking the operation comes to. -/
theorem ends_track_of_failure {operation : Operation} {patience : Nat}
    (h : (wait.track patience operation).Branch (earlier ++ call :: later) result)
    (hfailed : call.failure? = some failure) (hstrict : wait.tolerates failure = false) :
    later = [] ∧ result = some (.error failure.fault) := by
  unfold track at h
  cases hmode : operation.mode with
  | watch =>
      rw [hmode] at h
      exact ends_await_of_failure h hfailed hstrict
  | submit =>
      rw [hmode] at h
      obtain ⟨reply, rest, hcalls, hrest⟩ := branch_ask_iff.mp h
      cases earlier with
      | nil =>
          obtain ⟨rfl, rfl⟩ := List.cons.inj hcalls
          cases reply with
          | ok id => cases hfailed
          | error other =>
              obtain rfl : other = failure := Option.some.inj hfailed
              dsimp only at hrest
              rw [hstrict] at hrest
              exact branch_done_iff.mp hrest
      | cons head between =>
          obtain ⟨-, rfl⟩ := List.cons.inj hcalls
          cases reply with
          | ok id => exact ends_await_of_failure hrest hfailed hstrict
          | error other =>
              dsimp only at hrest
              split at hrest
              · exact ends_await_of_failure (branch_notify_iff.mp hrest) hfailed hstrict
              · exact absurd (branch_done_iff.mp hrest).1 (by simp)

end Wait
end DesiredState
