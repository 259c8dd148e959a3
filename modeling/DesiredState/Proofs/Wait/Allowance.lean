import DesiredState.Proofs.Conversation.Midway
import DesiredState.Proofs.Wait
import Mathlib.Algebra.Order.Floor.Div
import Mathlib.Data.ENat.Basic

/-!
# How a wait ends

A wait reads its polls one by one, and what it keeps of them is a few counters.
What it comes to can be said of the polls alone:

* `Wait.Settled` — a poll settles the wait: the job failed, the poll failed
  beyond tolerance, or it is the last of enough successes in a row;
* `Wait.allowance` — how many polls the budget pays for.

The first poll that settles the wait is the last one that is made, if the
budget pays for it; otherwise the allowance is used up and the wait runs out.
In both cases every poll comes after one interval, and nothing else takes time
but the delay after the submission.  Nothing is said of a wait that no poll
settles and no budget limits: it goes on for as long as there is patience.

A wait counts its polls in 32 bits, so what it tells of their number is right for
fewer polls than `2 ^ 32`.  A wait that takes more may still be followed to its end
(`run_track_of_first`), but it tells too few.
-/

namespace DesiredState

/-- A device that answers all submissions alike, and polls with one reply after
the other; the first one is the reply of index one. -/
def Device.replaying (submission : Except Failure String) (replies : Nat → Sighting) :
    Device Nat where
  answer
    | .submit _ _ _, polls => (submission, polls)
    | .poll _ _, polls => (replies (polls + 1), polls + 1)
    | _, polls => (.error (.answered 404 none), polls)

theorem Device.answer_replaying (submission : Except Failure String)
    (replies : Nat → Sighting) (job : Job) (id : String) (polls : Nat) :
    (replaying submission replies).answer (.poll job id) polls =
      (replies (polls + 1), polls + 1) :=
  rfl

/-- The value that a poll carries, if it does. -/
def Sighting.carried : Sighting → Option Attributes
  | .ok observation => observation.value
  | .error _ => none

theorem Sighting.isSuccess_iff {sighting : Sighting} :
    sighting.isSuccess = true ↔ ∃ value, sighting = .ok ⟨.completed, value⟩ := by
  constructor
  · intro h
    match sighting with
    | .ok ⟨.completed, value⟩ => exact ⟨value, rfl⟩
    | .ok ⟨.pending, _⟩ | .ok ⟨.failed _, _⟩ | .error _ => cases h
  · rintro ⟨value, rfl⟩
    rfl

/-- What an event takes of the time or asks of the device. -/
def Event.step? : Event → Option (Nat ⊕ Request)
  | .asked request _ => some (.inr request)
  | .slept duration => some (.inl duration)
  | .notified _ => none

namespace Run

variable {σ α : Type}

/-- The sleeps and the requests of a run, in order. -/
def steps (run : Run σ α) : List (Nat ⊕ Request) :=
  run.events.filterMap Event.step?

@[simp] theorem steps_after_asked (request : Request) (reply : request.Reply)
    (run : Run σ α) : (run.after (.asked request reply)).steps = .inr request :: run.steps :=
  rfl

@[simp] theorem steps_after_slept (duration : Nat) (run : Run σ α) :
    (run.after (.slept duration)).steps = .inl duration :: run.steps :=
  rfl

end Run

namespace Conversation

variable {σ α : Type}

/-- Notices change neither what a talk comes to nor what it takes. -/
theorem run_notifyAll (device : Device σ) (notices : List Notice) (talk : Conversation α)
    (state : σ) :
    ((notifyAll notices talk).run device state).result = (talk.run device state).result ∧
      ((notifyAll notices talk).run device state).steps = (talk.run device state).steps := by
  induction notices with
  | nil => exact ⟨rfl, rfl⟩
  | cons notice rest ih => exact ih

end Conversation

namespace Wait

open Conversation

/-- The polls that the budget of a wait pays for.  Every poll takes one interval,
so a deadline pays for as many as begin before it; without intervals no time goes
by. -/
def allowance (wait : Wait) : ℕ∞ :=
  match wait.budget with
  | .unbounded => ⊤
  | .attempts count => count
  | .deadline limit =>
      if wait.interval = 0 then
        if limit = 0 then 0 else ⊤
      else
        (limit ⌈/⌉ wait.interval : Nat)

/-- The value that the last of the first polls with a value has carried. -/
def lastCarried (replies : Nat → Sighting) (count : Nat) : Option Attributes :=
  ((List.range' 1 count).filterMap fun index => (replies index).carried).getLast?

/-- The poll of an index settles the wait, with a result. -/
inductive Settled (wait : Wait) (replies : Nat → Sighting) :
    Nat → Except Fault Outcome → Prop
  | failed {index : Nat} {detail : String} {value : Option Attributes} (made : 0 < index)
      (reply : replies index = .ok ⟨.failed detail, value⟩) :
      Settled wait replies index (.error (.fatal detail))
  | refused {index : Nat} {failure : Failure} (made : 0 < index)
      (reply : replies index = .error failure)
      (strict : ¬(failure.isUnreachable = true ∧ wait.tolerance.isSome = true)) :
      Settled wait replies index (.error failure.fault)
  /-- It is the last of enough successes in a row. -/
  | completed {index : Nat} (enough : max 1 wait.confirmations ≤ index)
      (successes : ∀ other, index < other + max 1 wait.confirmations → other ≤ index →
        (replies other).isSuccess = true) :
      Settled wait replies index
        (.ok (.completed (UInt32.ofNat index) (lastCarried replies index)))

/-- What a wait comes to that has run out after some polls. -/
def ranOut (wait : Wait) (label : String) (count : Nat) (last : Option Attributes) :
    Except Fault Outcome :=
  if wait.lenient then
    .ok (.gaveUp (UInt32.ofNat count) last)
  else
    .error (.fatal s!"timed out waiting for {label} after {count} polls")

/-- The id under which an operation is polled, if its submission is taken to be
accepted. -/
def idFor (wait : Wait) (operation : Operation) (submission : Except Failure String) :
    Option String :=
  match operation.mode, submission with
  | .watch, _ => some operation.key.path
  | .submit, .ok id => some id
  | .submit, .error failure => if wait.tolerates failure then some operation.label else none

/-- An operation that is tracked for some polls: the submission and the initial
delay, if there are any, and then one interval before each poll. -/
def stepsOf (wait : Wait) (operation : Operation) (id : String) (count : Nat) :
    List (Nat ⊕ Request) :=
  (match operation.mode with
    | .watch => []
    | .submit => [.inr (.submit operation.job operation.key operation.payload)]) ++
  (if wait.initialDelay = 0 then [] else [.inl wait.initialDelay]) ++
  (List.replicate count [.inl wait.interval, .inr (.poll operation.job id)]).flatten

variable {wait : Wait} {replies : Nat → Sighting} {seen : Seen} {count index : Nat}
  {result : Except Fault Outcome}

/-! ## Counting off the polls -/

/-- The budget has run out when the allowance is used up. -/
theorem isOver_iff :
    wait.isOver count (count * wait.interval) = true ↔ wait.allowance ≤ count := by
  unfold isOver allowance
  cases wait.budget with
  | unbounded => simp
  | attempts limit => simp
  | deadline limit =>
      by_cases hinterval : wait.interval = 0
      · by_cases hlimit : limit = 0
        · simp [hinterval, hlimit]
        · simp [hinterval, hlimit]
      · have hpositive : 0 < wait.interval := Nat.pos_of_ne_zero hinterval
        have hrounded : limit ⌈/⌉ wait.interval ≤ count ↔ limit ≤ wait.interval * count :=
          ceilDiv_le_iff_le_mul hpositive
        simp [hinterval, hrounded, Nat.mul_comm]

/-- The first replies, in order. -/
def firstReplies (replies : Nat → Sighting) (count : Nat) : List Sighting :=
  (List.range' 1 count).map replies

theorem firstReplies_succ (replies : Nat → Sighting) (count : Nat) :
    firstReplies replies (count + 1) = firstReplies replies count ++ [replies (count + 1)] := by
  rw [firstReplies, List.range'_concat, List.map_append, List.map_singleton, Nat.one_mul,
    Nat.add_comm 1 count]
  rfl

theorem lastCarried_succ (replies : Nat → Sighting) (count : Nat) :
    lastCarried replies (count + 1) =
      (replies (count + 1)).carried.or (lastCarried replies count) := by
  rw [lastCarried, List.range'_concat, List.filterMap_append, List.getLast?_append,
    Nat.one_mul, Nat.add_comm 1 count]
  congr 1
  cases hcarried : (replies (count + 1)).carried with
  | none => simp [hcarried]
  | some value => simp [hcarried]

/-- The first replies end in so many successes exactly when each of these is one. -/
theorem le_successes_iff (replies : Nat → Sighting) (count wanted : Nat) :
    wanted ≤ Sighting.successes (firstReplies replies count) ↔
      wanted ≤ count ∧ ∀ other, count < other + wanted → other ≤ count →
        (replies other).isSuccess = true := by
  induction count generalizing wanted with
  | zero =>
      have hnone : Sighting.successes (firstReplies replies 0) = 0 := rfl
      rw [hnone]
      constructor
      · intro h
        exact ⟨h, fun other hlate hearly => by omega⟩
      · exact And.left
  | succ count ih =>
      rw [firstReplies_succ, Sighting.successes_append]
      by_cases hlast : (replies (count + 1)).isSuccess = true
      · rw [if_pos hlast]
        cases wanted with
        | zero => simp; omega
        | succ wanted =>
            rw [Nat.succ_le_succ_iff, ih]
            constructor
            · rintro ⟨hcount, hall⟩
              refine ⟨by omega, fun other hlate hearly => ?_⟩
              by_cases hother : other = count + 1
              · rw [hother]
                exact hlast
              · exact hall other (by omega) (by omega)
            · rintro ⟨hcount, hall⟩
              exact ⟨by omega, fun other hlate hearly => hall other (by omega) (by omega)⟩
      · rw [if_neg hlast]
        constructor
        · intro h
          exact ⟨by omega, fun other hlate hearly => by omega⟩
        · rintro ⟨-, hall⟩
          by_contra hsome
          exact hlast (hall (count + 1) (by omega) (Nat.le_refl _))

/-! ## One poll -/

/-- What a wait has seen is what there is to see of the first replies, which have not
ended it. -/
structure Seen.Reflects (wait : Wait) (replies : Nat → Sighting) (count : Nat)
    (seen : Seen) : Prop where
  tallies : seen.Tallies wait (firstReplies replies count)
  last : seen.last = lastCarried replies count
  few : Sighting.successes (firstReplies replies count) < max 1 wait.confirmations

theorem length_firstReplies (replies : Nat → Sighting) (count : Nat) :
    (firstReplies replies count).length = count := by
  rw [firstReplies, List.length_map, List.length_range']

theorem Seen.Reflects.polls (h : seen.Reflects wait replies count) :
    seen.polls = UInt32.ofNat count := by
  rw [h.tallies.polls, length_firstReplies]

/-- A streak has room for one more success as long as there were few polls, or few
successes end the wait. -/
theorem Seen.Reflects.toNat_streak_add_one (h : seen.Reflects wait replies count)
    (hroom : min wait.confirmations (count + 1) < 2 ^ 32) :
    (seen.streak + 1).toNat = Sighting.successes (firstReplies replies count) + 1 := by
  have hcount : Sighting.successes (firstReplies replies count) ≤ count :=
    ((le_successes_iff replies count _).mp (Nat.le_refl _)).1
  have hfew := h.few
  rw [h.tallies.streak_add_one]
  exact UInt32.toNat_ofNat_of_lt' (by rw [UInt32.size]; omega)

/-- A poll that a wait goes on after leaves the value that it carries, or else
the one before it. -/
theorem last_of_absorb {sighting : Sighting} {notices : List Notice} {next : Seen}
    (h : wait.absorb seen sighting = .goOn notices next) :
    next.last = sighting.carried.or seen.last := by
  match sighting with
  | .ok ⟨.pending, value⟩ =>
      cases h
      rfl
  | .ok ⟨.completed, value⟩ =>
      simp only [absorb, absorbObservation] at h
      split at h
      · cases h
      · cases h
        rfl
  | .ok ⟨.failed detail, value⟩ => cases h
  | .error failure =>
      simp only [absorb, absorbOutage] at h
      split at h
      · split at h
        · cases h
          rfl
        · split at h <;> cases h <;> rfl
      · cases h

/-- A success adds to the streak, and so confirms the job where enough came before it. -/
theorem Seen.Reflects.confirmed_iff (h : seen.Reflects wait replies count)
    (hroom : min wait.confirmations (count + 1) < 2 ^ 32)
    (hsuccess : (replies (count + 1)).isSuccess = true) :
    wait.confirmations ≤ (seen.streak + 1).toNat ↔
      max 1 wait.confirmations ≤ count + 1 ∧ ∀ other,
        count + 1 < other + max 1 wait.confirmations → other ≤ count + 1 →
          (replies other).isSuccess = true := by
  rw [← le_successes_iff, firstReplies_succ, Sighting.successes_append, if_pos hsuccess,
    h.toNat_streak_add_one hroom]
  omega

/-- A poll settles what a wait has seen exactly when it settles the wait. -/
theorem absorb_eq_settled_iff (h : seen.Reflects wait replies count)
    (hroom : min wait.confirmations (count + 1) < 2 ^ 32) :
    (∃ notices, wait.absorb seen (replies (count + 1)) = .settled notices result) ↔
      wait.Settled replies (count + 1) result := by
  have hpolls : (seen.polled wait.interval).polls = UInt32.ofNat (count + 1) := by
    rw [h.tallies.polls_polled, length_firstReplies]
  have hlast : (replies (count + 1)).carried.or seen.last = lastCarried replies (count + 1) := by
    rw [h.last, lastCarried_succ]
  constructor
  · rintro ⟨notices, habsorb⟩
    cases hreply : replies (count + 1) with
    | error failure =>
        rw [hreply] at habsorb
        simp only [absorb] at habsorb
        split at habsorb
        · exact absurd habsorb absorbOutage_ne_settled
        · rename_i hstrict
          cases habsorb
          exact .refused (Nat.succ_pos count) hreply
            (fun htolerated => hstrict (Bool.and_eq_true_iff.mpr htolerated))
    | ok observation =>
        obtain ⟨progress, value⟩ := observation
        rw [hreply] at habsorb hlast
        simp only [absorb, absorbObservation] at habsorb
        cases progress with
        | pending => cases habsorb
        | completed =>
            dsimp only at habsorb
            split at habsorb
            · rename_i hconfirmed
              cases habsorb
              obtain ⟨hlong, hall⟩ := (h.confirmed_iff hroom
                (Sighting.isSuccess_iff.mpr ⟨value, hreply⟩)).mp hconfirmed
              rw [hpolls]
              change wait.Settled replies (count + 1) (.ok (.completed _
                (Sighting.carried (.ok ⟨.completed, value⟩) |>.or seen.last)))
              rw [hlast]
              exact .completed hlong hall
            · cases habsorb
        | failed detail =>
            cases habsorb
            exact .failed (Nat.succ_pos count) hreply
  · intro hsettled
    cases hsettled with
    | failed made reply =>
        rw [reply]
        exact ⟨_, rfl⟩
    | refused made reply strict =>
        rw [reply]
        refine ⟨[], absorb_of_untolerated (Bool.eq_false_iff.mpr fun htolerated => ?_)⟩
        exact strict (Bool.and_eq_true_iff.mp htolerated)
    | completed enough successes =>
        have hsuccess := successes (count + 1) (by omega) (Nat.le_refl _)
        have hconfirmed := (h.confirmed_iff hroom hsuccess).mpr ⟨enough, successes⟩
        obtain ⟨value, hreply⟩ := Sighting.isSuccess_iff.mp hsuccess
        rw [← hlast, hreply]
        refine ⟨[], ?_⟩
        simp only [absorb, absorbObservation]
        rw [hpolls]
        exact if_pos hconfirmed

/-- A poll that is borne, and after which there are not enough successes in a row,
does not settle the wait. -/
theorem not_settled_of_bears (hborne : wait.bears (replies index) = true)
    (hfew : Sighting.successes (firstReplies replies index) < max 1 wait.confirmations) :
    ¬wait.Settled replies index result := by
  intro hsettled
  cases hsettled with
  | failed made reply =>
      rw [reply] at hborne
      cases hborne
  | refused made reply strict =>
      rw [reply] at hborne
      exact strict (Bool.and_eq_true_iff.mp hborne)
  | completed enough successes =>
      have henough := (le_successes_iff replies index _).mpr ⟨enough, successes⟩
      omega

/-- A wait that a poll does not settle goes on. -/
theorem exists_goOn (h : seen.Reflects wait replies count)
    (hroom : min wait.confirmations (count + 1) < 2 ^ 32)
    (hunsettled : ∀ result, ¬wait.Settled replies (count + 1) result) :
    ∃ notices next, wait.absorb seen (replies (count + 1)) = .goOn notices next ∧
      next.Reflects wait replies (count + 1) := by
  cases habsorb : wait.absorb seen (replies (count + 1)) with
  | settled notices result =>
      exact absurd ((absorb_eq_settled_iff h hroom).mp ⟨notices, habsorb⟩) (hunsettled result)
  | goOn notices next =>
      refine ⟨notices, next, rfl, ?_, ?_, ?_⟩
      · rw [firstReplies_succ]
        exact tallies_absorb h.tallies habsorb
      · rw [last_of_absorb habsorb, h.last, lastCarried_succ]
      · refine Nat.lt_of_not_le fun hmany => ?_
        obtain ⟨enough, successes⟩ := (le_successes_iff replies (count + 1) _).mp hmany
        exact hunsettled _ (.completed enough successes)

/-! ## All polls -/

/-- One interval and one poll, so many times. -/
def pollSteps (wait : Wait) (job : Job) (id : String) (count : Nat) : List (Nat ⊕ Request) :=
  (List.replicate count [.inl wait.interval, .inr (.poll job id)]).flatten

theorem isOver_eq_false (h : seen.Reflects wait replies count)
    (hallowed : (count + 1 : Nat) ≤ wait.allowance) :
    wait.isOver seen.polls.toNat seen.slept = false := by
  refine Bool.eq_false_iff.mpr fun hover => ?_
  have hspent := h.tallies.isOver hover
  rw [length_firstReplies, isOver_iff] at hspent
  have hmore : count + 1 ≤ count := by
    exact_mod_cast hallowed.trans hspent
  omega

section Follow

variable (submission : Except Failure String) (label : String) (job : Job) (id : String)

/-- A wait whose next poll does not settle it makes the poll and goes on. -/
theorem run_follow_of_goOn (hopen : wait.isOver seen.polls.toNat seen.slept = false)
    {notices : List Notice} {next : Seen}
    (habsorb : wait.absorb seen (replies (count + 1)) = .goOn notices next)
    (patience : Nat) :
    ((wait.follow label job id (patience + 1) seen).run
        (Device.replaying submission replies) count).result =
      ((wait.follow label job id patience next).run
        (Device.replaying submission replies) (count + 1)).result ∧
    ((wait.follow label job id (patience + 1) seen).run
        (Device.replaying submission replies) count).steps =
      wait.pollSteps job id 1 ++ ((wait.follow label job id patience next).run
        (Device.replaying submission replies) (count + 1)).steps := by
  obtain ⟨hresult, hsteps⟩ := run_notifyAll (Device.replaying submission replies) notices
    (wait.follow label job id patience next) (count + 1)
  rw [follow, if_neg (Bool.eq_false_iff.mp hopen)]
  simp only [Conversation.run, Device.answer_replaying, habsorb, Run.result_after,
    Run.steps_after_slept, Run.steps_after_asked, hresult, hsteps, true_and]
  rfl

/-- A wait whose next poll settles it makes the poll and ends. -/
theorem run_follow_of_settled (hopen : wait.isOver seen.polls.toNat seen.slept = false)
    {notices : List Notice}
    (habsorb : wait.absorb seen (replies (count + 1)) = .settled notices result)
    (patience : Nat) :
    ((wait.follow label job id (patience + 1) seen).run
        (Device.replaying submission replies) count).result = some result ∧
    ((wait.follow label job id (patience + 1) seen).run
        (Device.replaying submission replies) count).steps = wait.pollSteps job id 1 := by
  obtain ⟨hresult, hsteps⟩ := run_notifyAll (Device.replaying submission replies) notices
    (.done result) (count + 1)
  rw [follow, if_neg (Bool.eq_false_iff.mp hopen)]
  simp only [Conversation.run, Device.answer_replaying, habsorb, Run.result_after,
    Run.steps_after_slept, Run.steps_after_asked, hresult, hsteps, true_and]
  rfl

/-- A wait follows the replies for as long as none settles it and the allowance
lasts. -/
theorem run_follow_of_unsettled (h : seen.Reflects wait replies count) (more patience : Nat)
    (hroom : min wait.confirmations (count + more) < 2 ^ 32)
    (hallowed : (count + more : Nat) ≤ wait.allowance)
    (hunsettled : ∀ index, count < index → index ≤ count + more →
      ∀ result, ¬wait.Settled replies index result) :
    ∃ next : Seen, next.Reflects wait replies (count + more) ∧
      ((wait.follow label job id (more + patience) seen).run
        (Device.replaying submission replies) count).result =
          ((wait.follow label job id patience next).run
            (Device.replaying submission replies) (count + more)).result ∧
      ((wait.follow label job id (more + patience) seen).run
        (Device.replaying submission replies) count).steps =
          wait.pollSteps job id more ++ ((wait.follow label job id patience next).run
            (Device.replaying submission replies) (count + more)).steps := by
  induction more generalizing count seen with
  | zero => exact ⟨seen, h, by simp, by simp [pollSteps]⟩
  | succ more ih =>
      have hshift : count + (more + 1) = count + 1 + more := by omega
      have hpatience : more + 1 + patience = more + patience + 1 := by omega
      rw [hshift] at hroom hallowed hunsettled ⊢
      rw [hpatience]
      have hone : ((count + 1 : Nat) : ℕ∞) ≤ wait.allowance :=
        le_trans (by exact_mod_cast Nat.le_add_right (count + 1) more) hallowed
      obtain ⟨notices, next, habsorb, hnext⟩ :=
        exists_goOn h (by omega) (hunsettled (count + 1) (by omega) (by omega))
      obtain ⟨hresult, hsteps⟩ := run_follow_of_goOn submission label job id
        (isOver_eq_false h hone) habsorb (more + patience)
      obtain ⟨last, hlast, hlastResult, hlastSteps⟩ :=
        ih hnext hroom hallowed fun index hlate hearly => hunsettled index (by omega) hearly
      refine ⟨last, hlast, hresult.trans hlastResult, ?_⟩
      rw [hsteps, hlastSteps, ← List.append_assoc]
      rfl

end Follow

variable {submission : Except Failure String} {label : String} {job : Job} {id : String}

theorem reflects_nil (wait : Wait) (replies : Nat → Sighting) :
    Seen.Reflects wait replies 0 {} :=
  ⟨tallies_nil wait, rfl, Nat.lt_of_lt_of_le Nat.zero_lt_one (Nat.le_max_left 1 _)⟩

/-- A wait ends with the first poll that settles it, if its streak has room for the
successes that are asked for. -/
theorem run_follow_of_first {patience : Nat} (hsettled : wait.Settled replies index result)
    (hfirst : ∀ earlier < index, ∀ other, ¬wait.Settled replies earlier other)
    (hroom : min wait.confirmations index < 2 ^ 32)
    (hallowed : (index : ℕ∞) ≤ wait.allowance) (hpatience : index ≤ patience) :
    ((wait.follow label job id patience {}).run
        (Device.replaying submission replies) 0).result = some result ∧
    ((wait.follow label job id patience {}).run
        (Device.replaying submission replies) 0).steps = wait.pollSteps job id index := by
  have hmade : 0 < index := by
    cases hsettled with
    | failed made | refused made => exact made
    | completed enough => omega
  obtain ⟨before, rfl⟩ : ∃ before, index = before + 1 := ⟨index - 1, by omega⟩
  obtain ⟨left, rfl⟩ : ∃ left, patience = before + (left + 1) :=
    ⟨patience - before - 1, by omega⟩
  have hbefore : ((0 + before : Nat) : ℕ∞) ≤ wait.allowance :=
    le_trans (by exact_mod_cast (by omega : 0 + before ≤ before + 1)) hallowed
  obtain ⟨next, hnext, hresult, hsteps⟩ := run_follow_of_unsettled submission label job
    id (reflects_nil wait replies) before (left + 1) (by omega)
    hbefore fun index _ hearly => hfirst index (by omega)
  rw [Nat.zero_add] at hnext hresult hsteps
  obtain ⟨notices, habsorb⟩ := (absorb_eq_settled_iff hnext hroom).mpr hsettled
  obtain ⟨hlastResult, hlastSteps⟩ := run_follow_of_settled submission label job id
    (isOver_eq_false hnext hallowed) habsorb left
  refine ⟨hresult.trans hlastResult, ?_⟩
  rw [hsteps, hlastSteps, pollSteps, pollSteps, pollSteps, ← List.flatten_append,
    List.replicate_append_replicate]

/-- A wait that no poll of its allowance settles runs out, if its polls can be
counted. -/
theorem run_follow_of_spent {patience : Nat} (hallowance : wait.allowance = (count : Nat))
    (hcount : count < 2 ^ 32)
    (hunsettled : ∀ index ≤ count, ∀ other, ¬wait.Settled replies index other)
    (hpatience : count ≤ patience) :
    ((wait.follow label job id patience {}).run
        (Device.replaying submission replies) 0).result =
      some (wait.ranOut label count (lastCarried replies count)) ∧
    ((wait.follow label job id patience {}).run
        (Device.replaying submission replies) 0).steps = wait.pollSteps job id count := by
  obtain ⟨left, rfl⟩ : ∃ left, patience = count + left := ⟨patience - count, by omega⟩
  obtain ⟨next, hnext, hresult, hsteps⟩ := run_follow_of_unsettled submission label job
    id (reflects_nil wait replies) count left (by omega)
    (by rw [Nat.zero_add, hallowance]) fun index _ hearly => hunsettled index (by omega)
  rw [Nat.zero_add] at hnext hresult hsteps
  have hpolls : next.polls.toNat = count := by
    rw [hnext.polls]
    exact UInt32.toNat_ofNat_of_lt' hcount
  have hover : wait.isOver next.polls.toNat next.slept = true := by
    rw [hpolls, hnext.tallies.slept, length_firstReplies, isOver_iff, hallowance]
  have hend : wait.follow label job id left next = wait.giveUp label next := by
    rw [follow.eq_def, if_pos hover]
  rw [hend] at hresult hsteps
  rw [hresult, hsteps]
  unfold giveUp ranOut
  rw [hpolls, hnext.polls, hnext.last]
  split
  · exact ⟨rfl, List.append_nil _⟩
  · exact ⟨rfl, List.append_nil _⟩

/-! ## Tracking -/

variable {operation : Operation}

theorem run_await (wait : Wait) (submission : Except Failure String)
    (replies : Nat → Sighting) (operation : Operation) (id : String) (patience : Nat) :
    ((wait.await operation patience id).run (Device.replaying submission replies) 0).result =
      ((wait.follow operation.label operation.job id patience {}).run
        (Device.replaying submission replies) 0).result ∧
    ((wait.await operation patience id).run (Device.replaying submission replies) 0).steps =
      (if wait.initialDelay = 0 then [] else [.inl wait.initialDelay]) ++
        ((wait.follow operation.label operation.job id patience {}).run
          (Device.replaying submission replies) 0).steps := by
  unfold await
  dsimp only
  split
  · exact ⟨rfl, rfl⟩
  · exact ⟨rfl, rfl⟩

/-- An operation that is accepted under an id is awaited under that id, after its
submission where it is submitted. -/
theorem run_track (haccepted : wait.idFor operation submission = some id)
    (replies : Nat → Sighting) (patience : Nat) :
    ((wait.track patience operation).run (Device.replaying submission replies) 0).result =
      ((wait.await operation patience id).run (Device.replaying submission replies) 0).result ∧
    ((wait.track patience operation).run (Device.replaying submission replies) 0).steps =
      (match operation.mode with
        | .watch => []
        | .submit => [.inr (.submit operation.job operation.key operation.payload)]) ++
        ((wait.await operation patience id).run
          (Device.replaying submission replies) 0).steps := by
  unfold idFor at haccepted
  unfold track
  cases hmode : operation.mode with
  | watch =>
      rw [hmode] at haccepted
      obtain rfl := Option.some.inj haccepted
      exact ⟨rfl, rfl⟩
  | submit =>
      rw [hmode] at haccepted
      simp only [Conversation.run, Device.replaying, Run.result_after, Run.steps_after_asked]
      cases submission with
      | ok accepted =>
          obtain rfl := Option.some.inj haccepted
          exact ⟨rfl, rfl⟩
      | error failure =>
          dsimp only at haccepted ⊢
          split at haccepted
          · rename_i htolerated
            obtain rfl := Option.some.inj haccepted
            rw [if_pos htolerated]
            exact ⟨rfl, rfl⟩
          · cases haccepted

theorem result_and_steps_of_follow {patience : Nat} {ending : Option (Except Fault Outcome)}
    (haccepted : wait.idFor operation submission = some id)
    (h : ((wait.follow operation.label operation.job id patience {}).run
        (Device.replaying submission replies) 0).result = ending ∧
      ((wait.follow operation.label operation.job id patience {}).run
        (Device.replaying submission replies) 0).steps = wait.pollSteps operation.job id count) :
    ((wait.track patience operation).run (Device.replaying submission replies) 0).result =
        ending ∧
      ((wait.track patience operation).run (Device.replaying submission replies) 0).steps =
        wait.stepsOf operation id count := by
  obtain ⟨hresult, hsteps⟩ := run_track haccepted replies patience
  obtain ⟨hawait, hawaitSteps⟩ := run_await wait submission replies operation id
    patience
  refine ⟨hresult.trans (hawait.trans h.1), ?_⟩
  rw [hsteps, hawaitSteps, h.2, stepsOf, pollSteps, List.append_assoc]

/-- An operation that is accepted ends with the first poll that settles it.  That may
take any number of polls, as long as the successes in a row can be counted. -/
theorem run_track_of_first {patience : Nat}
    (haccepted : wait.idFor operation submission = some id)
    (hsettled : wait.Settled replies index result)
    (hfirst : ∀ earlier < index, ∀ other, ¬wait.Settled replies earlier other)
    (hroom : min wait.confirmations index < 2 ^ 32)
    (hallowed : (index : ℕ∞) ≤ wait.allowance) (hpatience : index ≤ patience) :
    ((wait.track patience operation).run (Device.replaying submission replies) 0).result =
        some result ∧
      ((wait.track patience operation).run (Device.replaying submission replies) 0).steps =
        wait.stepsOf operation id index :=
  result_and_steps_of_follow haccepted
    (run_follow_of_first hsettled hfirst hroom hallowed hpatience)

/-- An operation that is accepted, and that no poll of its allowance settles, has run
out. -/
theorem run_track_of_spent {patience : Nat}
    (haccepted : wait.idFor operation submission = some id)
    (hallowance : wait.allowance = (count : Nat)) (hcount : count < 2 ^ 32)
    (hunsettled : ∀ index ≤ count, ∀ other, ¬wait.Settled replies index other)
    (hpatience : count ≤ patience) :
    ((wait.track patience operation).run (Device.replaying submission replies) 0).result =
        some (wait.ranOut operation.label count (lastCarried replies count)) ∧
      ((wait.track patience operation).run (Device.replaying submission replies) 0).steps =
        wait.stepsOf operation id count :=
  result_and_steps_of_follow haccepted
    (run_follow_of_spent hallowance hcount hunsettled hpatience)

/-- A wait that completes tells its polls up to the width of the count. -/
theorem Settled.polls {outcome : Outcome} (h : wait.Settled replies index (.ok outcome)) :
    outcome.polls = index % 2 ^ 32 := by
  cases h with
  | completed => exact UInt32.toNat_ofNat'

/-- So does a wait that has run out leniently. -/
theorem polls_of_ranOut {last : Option Attributes} {outcome : Outcome}
    (h : wait.ranOut label count last = .ok outcome) : outcome.polls = count % 2 ^ 32 := by
  unfold ranOut at h
  split at h
  · obtain rfl := Except.ok.inj h
    exact UInt32.toNat_ofNat'
  · cases h

/-- An operation that is accepted is polled up to the first poll that settles it,
and comes to what that poll says, if the allowance lasts for so long.  If no poll
of a finite allowance settles it, the allowance is used up and the wait has run
out.  As long as the polls can be counted in 32 bits, their number is told. -/
theorem track_ends (replies : Nat → Sighting) (patience : Nat)
    (haccepted : wait.idFor operation submission = some id) :
    let run := (wait.track patience operation).run (Device.replaying submission replies) 0
    (∀ index result, wait.Settled replies index result →
      (∀ earlier < index, ∀ other, ¬wait.Settled replies earlier other) →
        (index : ℕ∞) ≤ wait.allowance → index < 2 ^ 32 → index ≤ patience →
          run.result = some result ∧
            (∀ outcome, result = .ok outcome → outcome.polls = index) ∧
              run.steps = wait.stepsOf operation id index) ∧
    ∀ count : Nat, wait.allowance = count →
      (∀ index ≤ count, ∀ other, ¬wait.Settled replies index other) →
        count < 2 ^ 32 → count ≤ patience →
          let ending := wait.ranOut operation.label count (lastCarried replies count)
          run.result = some ending ∧
            (∀ outcome, ending = .ok outcome → outcome.polls = count) ∧
              run.steps = wait.stepsOf operation id count := by
  intro run
  constructor
  · intro index result hsettled hfirst hallowed hindex hpatience
    obtain ⟨hresult, hsteps⟩ := run_track_of_first haccepted hsettled hfirst
      (Nat.lt_of_le_of_lt (Nat.min_le_right _ index) hindex) hallowed hpatience
    refine ⟨hresult, fun outcome hok => ?_, hsteps⟩
    rw [hok] at hsettled
    exact hsettled.polls.trans (Nat.mod_eq_of_lt hindex)
  · intro count hallowance hunsettled hcount hpatience ending
    obtain ⟨hresult, hsteps⟩ := run_track_of_spent haccepted hallowance hcount hunsettled
      hpatience
    refine ⟨hresult, fun outcome hok => ?_, hsteps⟩
    exact (polls_of_ranOut hok).trans (Nat.mod_eq_of_lt hcount)

/-- A wait for two successes in a row that lasts for two and a half intervals. -/
def confirmed : Wait where
  interval := 1000
  budget := .deadline 2500
  initialDelay := 500
  confirmations := 2
  tolerance := some 1

/-- Watching a volume. -/
def watching : Operation :=
  ⟨.awaitReboot, ⟨"sys/software/volume", "Common", "HD1.2"⟩, .empty, .watch⟩

/-- The device is out of reach once, and then shows two successes. -/
def returning : Nat → Sighting
  | 1 => .error ⟨.timeout, none, none⟩
  | 2 => .ok ⟨.completed, some ⟨[("value", .text "up")]⟩⟩
  | _ => .ok ⟨.completed, none⟩

/-- The second success comes with the last poll that is allowed, and ends the wait;
where it does not come, the wait runs out with that poll. -/
theorem confirmed_ends :
    confirmed.idFor watching (.ok "") = some "/Common/HD1.2" ∧
      ((confirmed.track 3 watching).run (Device.replaying (.ok "") returning) 0).result =
        some (.ok (.completed 3 (some ⟨[("value", .text "up")]⟩))) ∧
      ((confirmed.track 3 watching).run
        (Device.replaying (.ok "") fun _ => .ok ⟨.pending, none⟩) 0).result =
          some (.error (.fatal
            "timed out waiting for await-reboot on sys/software/volume:/Common/HD1.2 after 3 polls")) := by
  have haccepted : confirmed.idFor watching (.ok "") = some "/Common/HD1.2" := rfl
  have hallowance : confirmed.allowance = (3 : Nat) := rfl
  have hsettled : confirmed.Settled returning 3
      (.ok (.completed 3 (lastCarried returning 3))) := by
    refine .completed (by decide) fun other hlate hearly => ?_
    have hother : other = 2 ∨ other = 3 := by
      change 3 < other + 2 at hlate
      omega
    rcases hother with rfl | rfl
    · rfl
    · rfl
  have hbefore : ∀ earlier < 3, confirmed.bears (returning earlier) = true ∧
      Sighting.successes (firstReplies returning earlier) < 2 := by decide
  have hnever : ∀ index ≤ 3, Sighting.successes
      (firstReplies (fun _ => .ok ⟨.pending, none⟩) index) < 2 := by decide
  have hcount : 3 < 2 ^ 32 := by decide
  refine ⟨haccepted,
    ((track_ends returning 3 haccepted).1 3 _ hsettled ?_ ?_ hcount (Nat.le_refl 3)).1,
    ((track_ends _ 3 haccepted).2 3 hallowance ?_ hcount (Nat.le_refl 3)).1⟩
  · intro earlier hearly other
    exact not_settled_of_bears (hbefore earlier hearly).1 (hbefore earlier hearly).2
  · exact hallowance.ge
  · intro index hindex other
    exact not_settled_of_bears rfl (hnever index hindex)

/-- A wait for the largest number of successes in a row that can be counted. -/
def longest : Wait := (every 1000).confirmedBy (2 ^ 32 - 1)

/-- The volume is not up at the first poll, and is up at all later ones. -/
def delayed : Nat → Sighting
  | 1 => .ok ⟨.pending, none⟩
  | _ => .ok ⟨.completed, none⟩

/-- The successes begin with the second poll, so the last of them comes with the poll
of index `2 ^ 32`.  The wait makes that poll and completes with it, but the count of
its polls has started again, and it tells none. -/
theorem polls_of_longest :
    longest.idFor watching (.ok "") = some "/Common/HD1.2" ∧
      ((2 ^ 32 : Nat) : ℕ∞) ≤ longest.allowance ∧
      (∀ earlier < 2 ^ 32, ∀ other, ¬longest.Settled delayed earlier other) ∧
      let run := (longest.track (2 ^ 32) watching).run (Device.replaying (.ok "") delayed) 0
      ∃ outcome, longest.Settled delayed (2 ^ 32) (.ok outcome) ∧
        run.result = some (.ok outcome) ∧
        run.steps = longest.stepsOf watching "/Common/HD1.2" (2 ^ 32) ∧
        outcome.polls = 0 := by
  have haccepted : longest.idFor watching (.ok "") = some "/Common/HD1.2" := rfl
  have hallowance : longest.allowance = ⊤ := rfl
  have hconfirmations : longest.confirmations = 2 ^ 32 - 1 := by decide
  have hborne : ∀ index, longest.bears (delayed index) = true
    | 0 | 1 | _ + 2 => rfl
  have hlater : ∀ index, 1 < index → (delayed index).isSuccess = true
    | _ + 2, _ => rfl
  have hsettled : longest.Settled delayed (2 ^ 32)
      (.ok (.completed (UInt32.ofNat (2 ^ 32)) (lastCarried delayed (2 ^ 32)))) :=
    .completed (by omega) fun other hlate hearly => hlater other (by omega)
  have hfirst : ∀ earlier < 2 ^ 32, ∀ other, ¬longest.Settled delayed earlier other := by
    intro earlier hearly other
    refine not_settled_of_bears (hborne earlier) (Nat.lt_of_not_le fun henough => ?_)
    -- so many successes before the last poll would have the first poll among them
    obtain ⟨hlong, hall⟩ := (le_successes_iff delayed earlier _).mp henough
    exact absurd (hall 1 (by omega) (by omega)) (by decide)
  have hallowed : ((2 ^ 32 : Nat) : ℕ∞) ≤ longest.allowance := hallowance ▸ le_top
  obtain ⟨hresult, hsteps⟩ := run_track_of_first haccepted hsettled hfirst (by omega) hallowed
    (Nat.le_refl _)
  exact ⟨haccepted, hallowed, hfirst, _, hsettled, hresult, hsteps,
    hsettled.polls.trans (Nat.mod_self _)⟩

end Wait
end DesiredState
