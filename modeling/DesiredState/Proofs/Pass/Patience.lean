import DesiredState.Plan
import DesiredState.Proofs.Except

/-!
# Patience

A wait without a budget may never end, so a talk is told how many polls it may
follow such a wait for, and is broken off after that.  A device knows nothing of
this patience.  With more of it a talk is the same but for its broken ends, where
it goes on (`CutsShort`), and so a run that has a result is the run for every
greater patience too (`Plan.run_eq_of_le`).
-/

namespace DesiredState

namespace Conversation

variable {σ α β : Type}

/-- A talk cuts another one short: it is the other one, except that it is broken off
where the other one may go on. -/
inductive CutsShort : Conversation α → Conversation α → Prop
  | done (result : α) : CutsShort (.done result) (.done result)
  | ask {request : Request} {next longer : request.Reply → Conversation α}
      (rest : ∀ reply, CutsShort (next reply) (longer reply)) :
      CutsShort (.ask request next) (.ask request longer)
  | sleep {duration : Nat} {next longer : Conversation α} (rest : CutsShort next longer) :
      CutsShort (.sleep duration next) (.sleep duration longer)
  | notify {notice : Notice} {next longer : Conversation α} (rest : CutsShort next longer) :
      CutsShort (.notify notice next) (.notify notice longer)
  | brokenOff (longer : Conversation α) : CutsShort .brokenOff longer

namespace CutsShort

variable {talk longer : Conversation α}

theorem refl (talk : Conversation α) : talk.CutsShort talk := by
  induction talk with
  | done result => exact .done result
  | ask request next ih => exact .ask ih
  | sleep duration next ih => exact .sleep ih
  | notify notice next ih => exact .notify ih
  | brokenOff => exact .brokenOff _

/-- Two talks in a row are cut short by cutting short both. -/
theorem bind {next nextLonger : α → Conversation β} (h : talk.CutsShort longer)
    (hnext : ∀ value, (next value).CutsShort (nextLonger value)) :
    (talk.bind next).CutsShort (longer.bind nextLonger) := by
  induction h with
  | done result => exact hnext result
  | ask rest ih => exact .ask ih
  | sleep rest ih => exact .sleep ih
  | notify rest ih => exact .notify ih
  | brokenOff longer => exact .brokenOff _

theorem notifyAll (notices : List Notice) (h : talk.CutsShort longer) :
    (Conversation.notifyAll notices talk).CutsShort (Conversation.notifyAll notices longer) := by
  induction notices with
  | nil => exact h
  | cons notice rest ih => exact .notify ih

theorem ite {condition : Prop} [Decidable condition] {other otherLonger : Conversation α}
    (h : talk.CutsShort longer) (hother : other.CutsShort otherLonger) :
    (if condition then talk else other).CutsShort
      (if condition then longer else otherLonger) := by
  split
  · exact h
  · exact hother

/-- A run that has a result was not cut short. -/
theorem run_eq (h : talk.CutsShort longer) {device : Device σ} {state : σ} {result : α}
    (hresult : (talk.run device state).result = some result) :
    longer.run device state = talk.run device state := by
  induction h generalizing state with
  | done result => rfl
  | ask rest ih => exact congrArg (Run.after _) (ih _ hresult)
  | sleep rest ih => exact congrArg (Run.after _) (ih hresult)
  | notify rest ih => exact congrArg (Run.after _) (ih hresult)
  | brokenOff longer => cases hresult

end CutsShort
end Conversation

open Conversation

/-! ## Waits -/

namespace Wait

variable {patience more : Nat}

/-- A wait is followed for longer with more patience. -/
theorem follow_cutsShort (h : patience ≤ more) (wait : Wait) (label : String) (job : Job)
    (id : String) (seen : Seen) :
    (wait.follow label job id patience seen).CutsShort (wait.follow label job id more seen) := by
  induction patience generalizing more seen with
  | zero =>
      rw [follow.eq_def, follow.eq_def]
      split
      · exact .refl _
      · exact .brokenOff _
  | succ left ih =>
      obtain ⟨further, rfl⟩ : ∃ further, more = further + 1 := ⟨more - 1, by omega⟩
      rw [follow, follow]
      split
      · exact .refl _
      · refine .sleep (.ask fun reply => ?_)
        cases wait.absorb seen reply with
        | goOn notices next =>
            exact .notifyAll notices (ih (Nat.le_of_succ_le_succ h) next)
        | settled notices result => exact .refl _

theorem await_cutsShort (h : patience ≤ more) (wait : Wait) (operation : Operation)
    (id : String) :
    (wait.await operation patience id).CutsShort (wait.await operation more id) := by
  have hfollow := wait.follow_cutsShort h operation.label operation.job id {}
  unfold await
  dsimp only
  split
  · exact hfollow
  · exact .sleep hfollow

theorem track_cutsShort (h : patience ≤ more) (wait : Wait) (operation : Operation) :
    (wait.track patience operation).CutsShort (wait.track more operation) := by
  unfold track
  cases operation.mode with
  | watch => exact wait.await_cutsShort h operation _
  | submit =>
      refine .ask fun reply => ?_
      cases reply with
      | ok id => exact wait.await_cutsShort h operation id
      | error failure =>
          dsimp only
          split
          · exact .notify (wait.await_cutsShort h operation _)
          · exact .refl _

end Wait

/-! ## Passes -/

namespace Pass

variable {pass : Pass} {more : Nat} {want : Attributes}

/-- The same pass with another patience. -/
def withPatience (pass : Pass) (more : Nat) : Pass :=
  { pass with patience := more }

theorem require_cutsShort {changed : Bool} {request : Request}
    {next longer : request.Answer → Talk}
    (h : ∀ answer, (next answer).CutsShort (longer answer)) :
    (require changed request next).CutsShort (require changed request longer) := by
  refine .ask fun reply => ?_
  cases reply with
  | ok answer => exact h answer
  | error failure => exact .refl _

theorem obtain_cutsShort {α : Type} (computed : Except Fault α) {next longer : α → Talk}
    (h : ∀ value, (next value).CutsShort (longer value)) :
    (obtain computed next).CutsShort (obtain computed longer) := by
  cases computed with
  | ok value => exact h value
  | error fault => exact .refl _

section Stages

variable (h : pass.patience ≤ more)

include h

theorem runFollowUps_cutsShort (satisfied wrote : Bool) (followUps : List FollowUp)
    (report : Report) :
    (pass.runFollowUps want satisfied wrote followUps report).CutsShort
      ((pass.withPatience more).runFollowUps want satisfied wrote followUps report) := by
  induction followUps generalizing report with
  | nil => exact .refl _
  | cons followUp rest ih =>
      unfold runFollowUps
      split
      · refine (followUp.wait.track_cutsShort h _).bind fun ended => ?_
        cases ended with
        | error fault => exact .refl _
        | ok outcome => exact ih _
      · exact ih _

theorem followUp_cutsShort (observed : Condition) (wrote : Bool) (report : Report) :
    (pass.followUp want observed wrote report).CutsShort
      ((pass.withPatience more).followUp want observed wrote report) :=
  runFollowUps_cutsShort h _ _ _ _

theorem create_cutsShort :
    (pass.create want).CutsShort ((pass.withPatience more).create want) := by
  refine obtain_cutsShort _ fun creation => .ite (.refl _) (require_cutsShort fun _ => ?_)
  have hflags : (pass.withPatience more).flagsAfterCreation = pass.flagsAfterCreation := rfl
  rw [hflags]
  cases pass.flagsAfterCreation with
  | some flags => exact require_cutsShort fun _ => followUp_cutsShort h _ _ _
  | none => exact followUp_cutsShort h _ _ _

theorem converge_cutsShort (held changes : Attributes) :
    (pass.converge want held changes).CutsShort
      ((pass.withPatience more).converge want held changes) := by
  refine .ite (.refl _) (.ite (.refl _) (.ite ?_ ?_))
  · exact require_cutsShort fun _ => followUp_cutsShort h _ _ _
  · exact followUp_cutsShort h _ _ _

theorem proceed_cutsShort (found : Bool) :
    (pass.proceed want found).CutsShort ((pass.withPatience more).proceed want found) := by
  refine .ite (.refl _) (.ite ?_ ?_)
  · exact require_cutsShort fun raw =>
      obtain_cutsShort _ fun changes => converge_cutsShort h _ changes
  · have hmissing : (pass.withPatience more).kind.missing = pass.kind.missing := rfl
    rw [hmissing]
    cases pass.kind.missing with
    | some reason => exact .refl _
    | none => exact create_cutsShort h

/-- A pass goes on for longer with more patience. -/
theorem reconcile_cutsShort (params : Attributes) :
    (pass.reconcile params).CutsShort ((pass.withPatience more).reconcile params) :=
  obtain_cutsShort _ fun _ =>
    .ite (proceed_cutsShort h true) (require_cutsShort fun found => proceed_cutsShort h found)

end Stages
end Pass

/-! ## Work orders -/

namespace Plan

open Device

variable {order : WorkOrder} {patience more : Nat} {shelf : Shelf}

theorem patience_of_passOf {pass : Pass} (hpass : passOf order patience = .ok pass) :
    pass.patience = patience := by
  obtain ⟨_, -, hrest⟩ := bind_eq_ok_iff.mp hpass
  obtain ⟨_, -, hrest⟩ := bind_eq_ok_iff.mp hrest
  obtain ⟨_, -, hrest⟩ := bind_eq_ok_iff.mp hrest
  obtain rfl := Except.ok.inj hrest
  rfl

/-- The catalogue is asked nothing about patience. -/
theorem passOf_withPatience (order : WorkOrder) (patience more : Nat) :
    passOf order more =
      (fun pass : Pass => pass.withPatience more) <$> passOf order patience := by
  simp only [passOf, map_bind, map_pure]
  rfl

/-- More patience makes no difference to a run that has a result. -/
theorem run_eq_of_le (h : patience ≤ more) {result : Except Setback Report}
    (hresult : (run order patience shelf).result = some result) :
    run order more shelf = run order patience shelf := by
  refine CutsShort.run_eq ?_ hresult
  unfold talk
  rw [passOf_withPatience order patience more]
  cases hpass : passOf order patience with
  | error fault => exact .refl _
  | ok pass =>
      have hpatience : pass.patience ≤ more := by rwa [patience_of_passOf hpass]
      exact Pass.reconcile_cutsShort hpatience order.params

end Plan
end DesiredState
