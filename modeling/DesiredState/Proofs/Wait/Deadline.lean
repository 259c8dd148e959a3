import DesiredState.Proofs.Wait.Allowance

/-!
# The deadline of a wait

A wait looks at its deadline, sleeps for an interval and then polls, so a poll
may come after the deadline, by less than an interval.  `Run.pollTimes` reads
the times of the polls off the sleeps before them; whatever the device replies,
they are the first multiples of the interval, and so many that the deadline had
not passed one interval before each (`steps_track`).

A late poll is therefore the last one that the budget pays for, and it is late
exactly when the deadline is no multiple of the interval (`deadline_kept_iff`).
-/

namespace DesiredState

/-- The times of the polls among some steps, by a clock that shows a time at first
and goes on by what is slept. -/
def pollTimes : Nat → List (Nat ⊕ Request) → List Nat
  | _, [] => []
  | now, .inl duration :: rest => pollTimes (now + duration) rest
  | now, .inr (.poll _ _) :: rest => now :: pollTimes now rest
  | now, .inr _ :: rest => pollTimes now rest

namespace Run

variable {σ α : Type}

/-- The times of the polls of a run that starts at time zero. -/
def pollTimes (run : Run σ α) : List Nat :=
  DesiredState.pollTimes 0 run.steps

/-- The sleeps of a run are found among its steps. -/
theorem sleeps_eq (run : Run σ α) : run.sleeps = run.steps.filterMap Sum.getLeft? := by
  rw [sleeps, steps, List.filterMap_filterMap]
  congr 1
  funext event
  cases event with
  | asked request reply => rfl
  | slept duration => rfl
  | notified notice => rfl

end Run

namespace Wait

open Conversation

variable {wait : Wait} {limit count : Nat} {σ : Type} {seen : Seen}

/-! ## The steps of a wait -/

/-- A wait that gives up takes no more steps. -/
theorem steps_giveUp (wait : Wait) (device : Device σ) (label : String) (seen : Seen)
    (state : σ) : ((wait.giveUp label seen).run device state).steps = [] := by
  rw [giveUp]
  split
  · rfl
  · rfl

/-- The budget has not run out after so many polls, which are counted up to the width
of the count. -/
def IsOpen (wait : Wait) (polls : Nat) : Prop :=
  wait.isOver (UInt32.ofNat polls).toNat (polls * wait.interval) = false

/-- A wait that polls again has seen a budget that has not run out. -/
theorem Seen.Tallies.isOpen {sightings : List Sighting} (h : seen.Tallies wait sightings)
    (hopen : ¬wait.isOver seen.polls.toNat seen.slept = true) :
    wait.IsOpen sightings.length := by
  rw [h.polls, h.slept] at hopen
  exact Bool.eq_false_iff.mpr hopen

/-- A wait sleeps and polls by turns, and its budget has not run out before any of
the polls. -/
theorem steps_follow {sightings : List Sighting} (h : seen.Tallies wait sightings)
    (device : Device σ) (label : String) (job : Job) (id : String) (patience : Nat)
    (state : σ) :
    ∃ count, ((wait.follow label job id patience seen).run device state).steps =
        wait.pollSteps job id count ∧
      ∀ index < count, wait.IsOpen (sightings.length + index) := by
  have hnone : ∀ made, ∀ index < 0, wait.IsOpen (made + index) :=
    fun _ index hindex => absurd hindex (Nat.not_lt_zero index)
  induction patience generalizing seen sightings state with
  | zero =>
      refine ⟨0, ?_, hnone _⟩
      rw [follow]
      split
      · exact steps_giveUp wait device label seen state
      · rfl
  | succ left ih =>
      rw [follow]
      split
      · exact ⟨0, steps_giveUp wait device label seen state, hnone _⟩
      · rename_i hover
        simp only [Conversation.run, Run.steps_after_slept, Run.steps_after_asked]
        cases habsorb : wait.absorb seen (device.answer (.poll job id) state).1 with
        | goOn notices next =>
            have hnext := tallies_absorb h habsorb
            obtain ⟨count, hsteps, hopen⟩ := ih hnext (device.answer (.poll job id) state).2
            refine ⟨count + 1, ?_, fun index hindex => ?_⟩
            · rw [(run_notifyAll device notices _ _).2, hsteps]
              rfl
            · cases index with
              | zero => exact h.isOpen hover
              | succ index =>
                  have hlater := hopen index (by omega)
                  rwa [List.length_append, List.length_singleton, Nat.add_assoc,
                    Nat.add_comm 1 index] at hlater
        | settled notices result =>
            refine ⟨1, ?_, fun index hindex => ?_⟩
            · rw [(run_notifyAll device notices _ _).2]
              rfl
            · obtain rfl : index = 0 := by omega
              exact h.isOpen hover

/-- An operation that is tracked is refused, or it is awaited under some id for some
polls, and the budget has not run out before any of them. -/
theorem steps_track (wait : Wait) (device : Device σ) (operation : Operation)
    (patience : Nat) (state : σ) :
    ((wait.track patience operation).run device state).steps =
        [.inr (.submit operation.job operation.key operation.payload)] ∨
      ∃ id count, ((wait.track patience operation).run device state).steps =
          wait.stepsOf operation id count ∧
        ∀ index < count, wait.IsOpen index := by
  have hawait : ∀ id state, ∃ count,
      ((wait.await operation patience id).run device state).steps =
        (if wait.initialDelay = 0 then [] else [.inl wait.initialDelay]) ++
          wait.pollSteps operation.job id count ∧
      ∀ index < count, wait.IsOpen index := by
    intro id state
    obtain ⟨count, hsteps, hopen⟩ := steps_follow (tallies_nil wait) device operation.label
      operation.job id patience state
    refine ⟨count, ?_, fun index hindex => ?_⟩
    · unfold await
      dsimp only
      split
      · exact hsteps
      · exact congrArg (.inl wait.initialDelay :: ·) hsteps
    · exact Nat.zero_add index ▸ hopen index hindex
  unfold track stepsOf
  cases operation.mode with
  | watch =>
      obtain ⟨count, hsteps, hopen⟩ := hawait operation.key.path state
      exact .inr ⟨operation.key.path, count, hsteps, hopen⟩
  | submit =>
      simp only [Conversation.run, Run.steps_after_asked]
      cases (device.answer (.submit operation.job operation.key operation.payload) state).1 with
      | ok id =>
          obtain ⟨count, hsteps, hopen⟩ := hawait id
            (device.answer (.submit operation.job operation.key operation.payload) state).2
          exact .inr ⟨id, count, congrArg (_ :: ·) hsteps, hopen⟩
      | error failure =>
          dsimp only
          split
          · obtain ⟨count, hsteps, hopen⟩ := hawait operation.label
              (device.answer (.submit operation.job operation.key operation.payload) state).2
            exact .inr ⟨operation.label, count, congrArg (_ :: ·) hsteps, hopen⟩
          · exact .inl rfl

/-! ## The times of the polls -/

theorem pollTimes_pollSteps (wait : Wait) (job : Job) (id : String) (count now : Nat) :
    pollTimes now (wait.pollSteps job id count) =
      (List.range' 1 count).map fun index => now + index * wait.interval := by
  induction count generalizing now with
  | zero => rfl
  | succ count ih =>
      change (now + wait.interval) ::
        pollTimes (now + wait.interval) (wait.pollSteps job id count) = _
      have hshift : (List.range' 1 count).map (1 + ·) = List.range' 2 count :=
        List.map_add_range' 1 count 1
      rw [ih, List.range'_succ, List.map_cons, Nat.one_mul, ← hshift, List.map_map]
      congr 1
      refine List.map_congr_left fun index _ => ?_
      rw [Function.comp_apply, Nat.add_mul, Nat.one_mul, Nat.add_assoc]

theorem sum_sleeps_pollSteps (wait : Wait) (job : Job) (id : String) (count : Nat) :
    ((wait.pollSteps job id count).filterMap Sum.getLeft?).sum = count * wait.interval := by
  induction count with
  | zero => exact (Nat.zero_mul wait.interval).symm
  | succ count ih =>
      change wait.interval + ((wait.pollSteps job id count).filterMap Sum.getLeft?).sum = _
      rw [ih, Nat.succ_mul, Nat.add_comm]

/-- The polls of an awaited operation come at even intervals after the delay, and
nothing comes after the last one. -/
theorem pollTimes_stepsOf (wait : Wait) (operation : Operation) (id : String)
    (count : Nat) :
    pollTimes 0 (wait.stepsOf operation id count) =
        ((List.range' 1 count).map fun index => wait.initialDelay + index * wait.interval) ∧
      ((wait.stepsOf operation id count).filterMap Sum.getLeft?).sum =
        wait.initialDelay + count * wait.interval := by
  have htimes := pollTimes_pollSteps wait operation.job id count
  have hsum := sum_sleeps_pollSteps wait operation.job id count
  unfold stepsOf
  rw [← pollSteps]
  by_cases hdelay : wait.initialDelay = 0
  · rw [if_pos hdelay, hdelay, List.append_nil, Nat.zero_add]
    cases operation.mode with
    | watch => exact ⟨htimes 0, hsum⟩
    | submit => exact ⟨htimes 0, hsum⟩
  · rw [if_neg hdelay]
    have hdelayed : pollTimes 0
        (.inl wait.initialDelay :: wait.pollSteps operation.job id count) =
          ((List.range' 1 count).map fun index =>
            wait.initialDelay + index * wait.interval) := by
      rw [pollTimes, Nat.zero_add, htimes]
    cases operation.mode with
    | watch => exact ⟨hdelayed, congrArg (wait.initialDelay + ·) hsum⟩
    | submit => exact ⟨hdelayed, congrArg (wait.initialDelay + ·) hsum⟩

/-- A deadline has passed before a poll unless the budget pays for that poll: so many
intervals as reach the deadline. -/
theorem isOpen_iff_lt (hbudget : wait.budget = .deadline limit)
    (hinterval : 0 < wait.interval) (index : Nat) :
    wait.IsOpen index ↔ index < limit ⌈/⌉ wait.interval := by
  have hrounded : limit ⌈/⌉ wait.interval ≤ index ↔ limit ≤ wait.interval * index :=
    ceilDiv_le_iff_le_mul hinterval
  rw [IsOpen, isOver, hbudget, decide_eq_false_iff_not, Nat.mul_comm, ← hrounded, Nat.not_le]

/-- Some polls that the budget pays for take no longer than the deadline exactly
when it is a multiple of the interval or pays for more. -/
theorem mul_interval_le_iff {interval : Nat} (hinterval : 0 < interval)
    (hcount : count ≤ limit ⌈/⌉ interval) :
    count * interval ≤ limit ↔ interval ∣ limit ∨ count < limit ⌈/⌉ interval := by
  have hrounded : ∀ other, limit ⌈/⌉ interval ≤ other ↔ limit ≤ interval * other :=
    fun other => ceilDiv_le_iff_le_mul hinterval
  rw [Nat.mul_comm]
  constructor
  · intro hle
    rcases Nat.lt_or_ge count (limit ⌈/⌉ interval) with hless | hmore
    · exact .inr hless
    · exact .inl ⟨count, Nat.le_antisymm ((hrounded count).mp hmore) hle⟩
  · rintro (⟨quotient, rfl⟩ | hless)
    · have hquotient := (hrounded quotient).mpr (Nat.le_refl _)
      exact Nat.mul_le_mul_left interval (hcount.trans hquotient)
    · have hbefore := mt (hrounded count).mpr (Nat.not_le_of_lt hless)
      omega

/-- Even some polls that the budget pays for take less than one interval longer than
the deadline. -/
theorem mul_interval_lt {interval : Nat} (hinterval : 0 < interval)
    (hcount : count ≤ limit ⌈/⌉ interval) : count * interval < limit + interval := by
  cases count with
  | zero =>
      rw [Nat.zero_mul]
      exact Nat.add_pos_right limit hinterval
  | succ earlier =>
      have hrounded : limit ⌈/⌉ interval ≤ earlier ↔ limit ≤ interval * earlier :=
        ceilDiv_le_iff_le_mul hinterval
      have hbefore := mt hrounded.mpr (Nat.not_le_of_lt hcount)
      rw [Nat.succ_mul, Nat.mul_comm]
      omega

/-- Polls at even intervals are bounded by the last of them. -/
theorem forall_even_times_le_iff (delay interval count limit : Nat) :
    (∀ time ∈ (List.range' 1 count).map fun index => delay + index * interval,
        time ≤ delay + limit) ↔ count * interval ≤ limit := by
  rw [List.forall_mem_map]
  constructor
  · intro hall
    rcases Nat.eq_zero_or_pos count with rfl | hsome
    · rw [Nat.zero_mul]
      exact Nat.zero_le limit
    · have hmem : count ∈ List.range' 1 count :=
        List.mem_range'_1.mpr ⟨hsome, Nat.lt_one_add_iff.mpr (Nat.le_refl count)⟩
      exact Nat.le_of_add_le_add_left (hall count hmem)
  · intro hle index hindex
    have hbefore : index ≤ count := Nat.lt_one_add_iff.mp (List.mem_range'_1.mp hindex).2
    exact Nat.add_le_add_left ((Nat.mul_le_mul_right interval hbefore).trans hle) delay

/-- A tracked operation is polled some times, at even intervals after the delay, and
the last poll is its end. -/
theorem times_track (wait : Wait) (device : Device σ) (operation : Operation)
    (patience : Nat) (state : σ) :
    let run := (wait.track patience operation).run device state
    ∃ count, (∀ index < count, wait.IsOpen index) ∧
      run.pollTimes =
          ((List.range' 1 count).map fun index => wait.initialDelay + index * wait.interval) ∧
        run.sleeps.sum ≤ wait.initialDelay + count * wait.interval ∧
          (0 < count → run.sleeps.sum = wait.initialDelay + count * wait.interval) := by
  intro run
  rcases steps_track wait device operation patience state with hrefused |
    ⟨id, count, hsteps, hopen⟩
  · have hsum : run.sleeps.sum = 0 := by
      rw [Run.sleeps_eq, hrefused]
      rfl
    refine ⟨0, fun index hindex => absurd hindex (Nat.not_lt_zero index), ?_, ?_,
      fun hsome => absurd hsome (Nat.lt_irrefl 0)⟩
    · rw [Run.pollTimes, hrefused]
      rfl
    · rw [hsum]
      exact Nat.zero_le _
  · obtain ⟨htimes, hsum⟩ := pollTimes_stepsOf wait operation id count
    rw [← hsteps] at htimes hsum
    rw [← Run.sleeps_eq] at hsum
    exact ⟨count, hopen, htimes, hsum.le, fun _ => hsum⟩

/-- The polls of a wait with a deadline come less than one interval after it.  They
come by the deadline, and so does the end of the wait, exactly when the deadline
is a multiple of the interval or the wait ends before the last poll that the
budget pays for. -/
theorem deadline_kept_iff (hbudget : wait.budget = .deadline limit)
    (hinterval : 0 < wait.interval) (device : Device σ) (operation : Operation)
    (patience : Nat) (state : σ) :
    let run := (wait.track patience operation).run device state
    let inTime :=
      wait.interval ∣ limit ∨ run.pollTimes.length < limit ⌈/⌉ wait.interval
    (∀ time ∈ run.pollTimes, time < wait.initialDelay + limit + wait.interval) ∧
      ((∀ time ∈ run.pollTimes, time ≤ wait.initialDelay + limit) ↔ inTime) ∧
        (run.sleeps.sum ≤ wait.initialDelay + limit ↔ inTime) := by
  intro run inTime
  obtain ⟨count, hopen, htimes, hsum, hlast⟩ := times_track wait device operation patience state
  have hcount : count ≤ limit ⌈/⌉ wait.interval :=
    le_of_forall_lt fun index hindex =>
      (isOpen_iff_lt hbudget hinterval index).mp (hopen index hindex)
  have hinTime : count * wait.interval ≤ limit ↔ inTime := by
    rw [mul_interval_le_iff hinterval hcount]
    change _ ↔ _ ∨ List.length run.pollTimes < _
    rw [htimes, List.length_map, List.length_range']
  rw [← hinTime]
  refine ⟨?_, ?_, ?_⟩
  · have hlate := mul_interval_lt hinterval hcount
    have hbefore := (forall_even_times_le_iff wait.initialDelay wait.interval count
      (count * wait.interval)).mpr (Nat.le_refl _)
    intro time htime
    rw [htimes] at htime
    have htimely := hbefore time htime
    omega
  · rw [htimes]
    exact forall_even_times_le_iff wait.initialDelay wait.interval count limit
  · rcases Nat.eq_zero_or_pos count with rfl | hsome
    · rw [Nat.zero_mul] at hsum ⊢
      exact iff_of_true (hsum.trans (Nat.add_le_add_left (Nat.zero_le limit) _))
        (Nat.zero_le limit)
    · rw [hlast hsome]
      exact Nat.add_le_add_iff_left

/-- A wait for three intervals, after a delay. -/
def measured : Wait := { confirmed with budget := .deadline 3000 }

/-- The deadline is a multiple of the interval, and the last poll comes with it. -/
theorem deadline_of_measured_kept :
    measured.budget = .deadline 3000 ∧ 0 < measured.interval ∧
      (let run := (measured.track 3 watching).run
        (Device.replaying (.ok "") fun _ => .ok ⟨.pending, none⟩) 0
      run.pollTimes = [1500, 2500, 3500] ∧
        ∀ time ∈ run.pollTimes, time ≤ measured.initialDelay + 3000) := by
  have hbudget : measured.budget = .deadline 3000 := rfl
  have hinterval : 0 < measured.interval := by decide
  have hkept := (deadline_kept_iff hbudget hinterval
    (Device.replaying (.ok "") fun _ => .ok ⟨.pending, none⟩) watching 3 0).2.1
  exact ⟨hbudget, hinterval, rfl, hkept.mpr (.inl ⟨3, rfl⟩)⟩

/-- A deadline of two and a half intervals is passed by the third poll. -/
theorem deadline_of_confirmed_missed :
    confirmed.budget = .deadline 2500 ∧ 0 < confirmed.interval ∧
      ¬∀ time ∈ ((confirmed.track 3 watching).run
        (Device.replaying (.ok "") fun _ => .ok ⟨.pending, none⟩) 0).pollTimes,
          time ≤ confirmed.initialDelay + 2500 := by
  refine ⟨rfl, by decide, fun hall => ?_⟩
  have hlate := hall 3500 (by decide)
  exact absurd hlate (by decide)

end Wait
end DesiredState
