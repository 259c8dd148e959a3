import DesiredState.Catalog.Archive
import DesiredState.Catalog.Policy
import DesiredState.Device.Scripted
import DesiredState.Proofs.Pass.Minutes

/-!
# What a setback says

A setback carries a fault, and whether anything had changed before it.

* The fault is that of the first failed call, unless the call was made for a
  follow-up that forgives the failure: nothing is asked after it.
* A pass that has modified something says so, unless it was removing the
  resource: what comes after a deletion is not reported as a change.
* A pass that says that something changed is right, unless it had only looked
  on: follow-ups that fail always count as a change, even those that were only
  watched, or refused.

Each of these is read off the minutes of the pass, case by case.
-/

namespace DesiredState

/-- Whether a request asks to modify something. -/
def Request.isModification : Request → Bool
  | .create _ _ | .update _ _ | .delete _ | .submit _ _ _ => true
  | .lookUp _ | .read _ | .poll _ _ => false

/-- Whether a request starts a job. -/
def Request.isSubmission : Request → Bool
  | .submit _ _ _ => true
  | _ => false

/-- Whether a call was to modify something, and was answered with success. -/
def Call.modifies (call : Call) : Bool :=
  call.request.isModification && call.failure?.isNone

/-- A follow-up forgives a failure: it tolerates outages, and the device was not
reached, or not in time. -/
def FollowUp.Forgives (followUp : FollowUp) (failure : Failure) : Prop :=
  followUp.wait.tolerance.isSome = true ∧
    (failure.kind = .unreachable ∨ failure.kind = .timeout)

/-- What is forgiven is what the wait of the follow-up tolerates. -/
theorem FollowUp.forgives_iff {followUp : FollowUp} {failure : Failure} :
    followUp.Forgives failure ↔ followUp.wait.tolerates failure = true := by
  simp [Forgives, Wait.tolerates, Failure.isUnreachable, and_comm]

/-- A device that answers is never forgiven its failure. -/
theorem FollowUp.not_forgives_answered {followUp : FollowUp} {status : Nat}
    {detail : Option String} : ¬followUp.Forgives (.answered status detail) := by
  rintro ⟨-, hkind | hkind⟩
  · cases hkind
  · cases hkind

/-- An errand that put the device to no work: it was only watched, or its
submission failed and was not forgiven. -/
def Errand.Idle (errand : Errand) : Prop :=
  errand.followUp.mode = .watch ∨ ∃ failure,
    errand.calls.head?.bind Call.failure? = some failure ∧ ¬errand.followUp.Forgives failure

namespace Errand

variable {errand : Errand} {errands rest : List Errand} {earlier later others : List Call}
  {call : Call}

theorem servedAt_of_split (h : errand.calls = earlier ++ call :: others) :
    servedAt (errand :: rest) earlier.length = some errand.followUp := by
  have hinside : earlier.length < errand.calls.length := by
    rw [h, List.length_append, List.length_cons]
    omega
  rw [servedAt, if_pos hinside]

theorem servedAt_append (start : List Call) :
    servedAt (errand :: rest) (errand.calls ++ start).length = servedAt rest start.length := by
  have hbeyond : ¬(errand.calls ++ start).length < errand.calls.length := by
    rw [List.length_append]
    omega
  rw [servedAt, if_neg hbeyond, List.length_append, Nat.add_sub_cancel_left]

/-- A call of some errands stands in one of them, and is made for its
follow-up. -/
theorem exists_of_split (h : callsOf errands = earlier ++ call :: later) :
    ∃ errand ∈ errands, call ∈ errand.calls ∧
      servedAt errands earlier.length = some errand.followUp := by
  induction errands generalizing earlier with
  | nil => simp at h
  | cons errand rest ih =>
      rcases split_at_call h with ⟨others, hcalls, -⟩ | ⟨start, rfl, hrest⟩
      · exact ⟨errand, List.mem_cons_self, by simp [hcalls], servedAt_of_split hcalls⟩
      · obtain ⟨found, hfound, hcall, hserved⟩ := ih hrest
        exact ⟨found, List.mem_cons_of_mem _ hfound, hcall, (servedAt_append start).trans hserved⟩

/-- The first call of an errand is made for its follow-up. -/
theorem servedAt_start (done : List Errand) (h : errand.calls = call :: others) :
    servedAt (done ++ errand :: rest) (callsOf done).length = some errand.followUp := by
  induction done with
  | nil => exact servedAt_of_split h
  | cons first later ih => exact (servedAt_append (callsOf later)).trans ih

end Errand

namespace Pass

open Conversation

/-- A submission that failed in one of the calls of a pass was taken to be
accepted, since its follow-up forgave the failure. -/
def Assumes (pass : Pass) (params : Attributes) (calls : List Call)
    (result : Option (Except Setback Report)) : Prop :=
  ∃ earlier call later failure followUp, calls = earlier ++ call :: later ∧
    call.request.isSubmission = true ∧ call.failure? = some failure ∧
      pass.Serves params calls result earlier.length followUp ∧ followUp.Forgives failure

/-- A pass has only looked on: its own calls were looks, and its errands put the
device to no work. -/
def LooksOn (pass : Pass) (params : Attributes) (calls : List Call)
    (result : Option (Except Setback Report)) : Prop :=
  ∃ own errands, pass.Minutes params own errands result ∧
    calls = own ++ Errand.callsOf errands ∧ (∀ call ∈ own, call.looks = true) ∧
      ∀ errand ∈ errands, errand.Idle

variable {pass : Pass} {params want : Attributes} {calls own earlier later : List Call}
  {errands : List Errand} {result : Option (Except Setback Report)} {call : Call}
  {failure : Failure} {setback : Setback}

/-! ## The first failure -/

theorem failure?_of_looks (h : call.looks = true) : call.failure? = none := by
  have hanswered := (Bool.and_eq_true_iff.mp h).2
  exact Option.isNone_iff_eq_none.mp hanswered

theorem not_modifies_of_looks (h : call.looks = true) : call.modifies = false := by
  obtain ⟨request, reply⟩ := call
  cases request with
  | lookUp _ | read _ => rfl
  | create _ _ | update _ _ | delete _ | submit _ _ _ | poll _ _ => cases h

theorem failure?_of_mem_updatesOf {body : Option Attributes}
    (h : call ∈ pass.updatesOf body) : call.failure? = none := by
  obtain ⟨_, -, rfl⟩ := List.mem_map.mp h
  rfl

/-- A failure that its follow-up does not forgive is the last call of an errand,
and what the errand ends with. -/
theorem ends_errand_of_unforgiven {errand : Errand} {rest : List Errand} {others : List Call}
    (h : (pass.errandTalk want errand.followUp).Branch errand.calls errand.ending)
    (hcalls : errand.calls = earlier ++ call :: others)
    (hfailed : call.failure? = some failure)
    (hunforgiven : ∀ followUp, Errand.servedAt (errand :: rest) earlier.length = some followUp →
      ¬followUp.Forgives failure) :
    others = [] ∧ errand.ending = some (.error failure.fault) := by
  have hstrict : errand.followUp.wait.tolerates failure = false := by
    rw [Bool.eq_false_iff, Ne, ← FollowUp.forgives_iff]
    exact hunforgiven _ (Errand.servedAt_of_split hcalls)
  rw [hcalls] at h
  exact Wait.ends_track_of_failure h hfailed hstrict

/-- A failure that its follow-up does not forgive is the last call of all
errands. -/
theorem Errands.ends_of_failure {followUps : List FollowUp} {report : Report}
    (h : pass.Errands want followUps report errands result)
    (hcalls : Errand.callsOf errands = earlier ++ call :: later)
    (hfailed : call.failure? = some failure)
    (hunforgiven : ∀ followUp, Errand.servedAt errands earlier.length = some followUp →
      ¬followUp.Forgives failure) :
    later = [] ∧ result = some (.error ⟨true, failure.fault⟩) := by
  induction h generalizing earlier with
  | finished report => simp at hcalls
  | followed tracked rest ih =>
      rcases split_at_call hcalls with ⟨others, hinside, -⟩ | ⟨start, rfl, hrest⟩
      · -- an errand that ended well holds no such failure
        cases (ends_errand_of_unforgiven tracked hinside hfailed hunforgiven).2
      · exact ih hrest fun followUp hserved =>
          hunforgiven followUp ((Errand.servedAt_append start).trans hserved)
  | failed tracked =>
      rw [Errand.callsOf_cons, Errand.callsOf_nil, List.append_nil] at hcalls
      obtain ⟨hlast, hending⟩ := ends_errand_of_unforgiven tracked hcalls hfailed hunforgiven
      obtain rfl := Except.error.inj (Option.some.inj hending)
      exact ⟨hlast, rfl⟩
  | brokenOff tracked =>
      rw [Errand.callsOf_cons, Errand.callsOf_nil, List.append_nil] at hcalls
      cases (ends_errand_of_unforgiven tracked hcalls hfailed hunforgiven).2

/-- Where all calls but the last were answered, only the last can have failed. -/
theorem eq_last_of_failure {answered : List Call} {last : Call}
    (hanswered : ∀ other ∈ answered, other.failure? = none)
    (hcalls : answered ++ [last] = earlier ++ call :: later)
    (hfailed : call.failure? = some failure) : later = [] ∧ call = last := by
  rcases split_at_call hcalls with ⟨others, rfl, -⟩ | ⟨start, -, hlast⟩
  · rw [hanswered call (by simp)] at hfailed
    cases hfailed
  · obtain ⟨-, hcons⟩ | ⟨others, -, hnil⟩ := List.append_eq_cons_iff.mp hlast.symm
    · obtain ⟨rfl, rfl⟩ := List.cons.inj hcons
      exact ⟨rfl, rfl⟩
    · simp at hnil

theorem failure?_of_mem_opening {found : Bool} :
    ∀ other ∈ pass.opening found, other.failure? = none :=
  fun other hmem => failure?_of_looks (looks_of_mem_opening other hmem)

/-- An own call that fails is the last call of a pass. -/
theorem Minutes.ends_of_own_failure (h : pass.Minutes params own errands result)
    (hcalls : own = earlier ++ call :: later) (hfailed : call.failure? = some failure) :
    later = [] ∧ errands = [] ∧ ∃ changed, result = some (.error ⟨changed, failure.fault⟩) := by
  -- some pass has failed in one of its own calls, so not all of them were answered
  have hunanswered : ¬∀ other ∈ own, other.failure? = none := fun hall => by
    rw [hall call (by simp [hcalls])] at hfailed
    cases hfailed
  cases h with
  | stopped looked =>
      exact absurd (fun other hmem => failure?_of_looks (looked other hmem)) hunanswered
  | refused looked =>
      obtain ⟨hlast, rfl⟩ := eq_last_of_failure
        (fun other hmem => failure?_of_looks (looked other hmem)) hcalls hfailed
      obtain rfl := Option.some.inj hfailed
      exact ⟨hlast, rfl, false, rfl⟩
  | removed reply =>
      rw [List.append_cons] at hcalls
      obtain ⟨hlast, rfl⟩ := eq_last_of_failure (List.forall_mem_append.mpr
        ⟨failure?_of_mem_opening, List.forall_mem_singleton.mpr rfl⟩) hcalls hfailed
      cases reply with
      | ok stillThere => cases hfailed
      | error other =>
          obtain rfl : other = failure := Option.some.inj hfailed
          exact ⟨hlast, rfl, false, rfl⟩
  | unflagged other =>
      rw [List.append_cons] at hcalls
      obtain ⟨hlast, rfl⟩ := eq_last_of_failure (List.forall_mem_append.mpr
        ⟨failure?_of_mem_opening, List.forall_mem_singleton.mpr rfl⟩) hcalls hfailed
      obtain rfl : other = failure := Option.some.inj hfailed
      exact ⟨hlast, rfl, true, rfl⟩
  | created | updated =>
      exact absurd (List.forall_mem_append.mpr ⟨failure?_of_mem_opening,
        List.forall_mem_cons.mpr ⟨rfl, fun _ => failure?_of_mem_updatesOf⟩⟩) hunanswered

/-- A pass has no errands, or has begun them for a target that keeps the
resource. -/
theorem Minutes.errands_of_begun (h : pass.Minutes params own errands result)
    (hbegun : errands ≠ []) :
    ∃ want followUps report, pass.Errands want followUps report errands result := by
  cases h with
  | created _ _ _ _ rest => exact ⟨_, _, _, rest⟩
  | updated _ _ _ _ _ _ rest => exact ⟨_, _, _, rest⟩
  | _ => exact absurd rfl hbegun

/-- Against every device, a call that fails ends the pass, with its fault as the
fault of the setback, unless it is made for a follow-up that forgives the
failure. -/
theorem ends_of_unforgiven {σ : Type} {device : Device σ} {state : σ}
    (hcalls : ((pass.reconcile params).run device state).calls = earlier ++ call :: later)
    (hfailed : call.failure? = some failure)
    (hunforgiven : ∀ followUp,
      pass.Serves params ((pass.reconcile params).run device state).calls
        ((pass.reconcile params).run device state).result earlier.length followUp →
      ¬followUp.Forgives failure) :
    later = [] ∧ ∃ changed, ((pass.reconcile params).run device state).result =
      some (.error ⟨changed, failure.fault⟩) := by
  obtain ⟨own, errands, hminutes, hall⟩ :=
    minutes_of_branch (branch_run device (pass.reconcile params) state)
  rcases split_at_call (hall.symm.trans hcalls) with ⟨others, hown, rfl⟩ | ⟨start, hearlier, hrest⟩
  · obtain ⟨rfl, rfl, hresult⟩ := hminutes.ends_of_own_failure hown hfailed
    exact ⟨rfl, hresult⟩
  · have hbegun : errands ≠ [] := by
      rintro rfl
      simp at hrest
    obtain ⟨want, followUps, report, herrands⟩ := hminutes.errands_of_begun hbegun
    obtain ⟨hlast, hresult⟩ := herrands.ends_of_failure hrest hfailed fun followUp hserved =>
      hunforgiven followUp ⟨own, errands, hminutes, hall, by simp [hearlier],
        by simpa [hearlier] using hserved⟩
    exact ⟨hlast, true, hresult⟩

/-- Restores an archive. -/
def restoration : Pass where
  kind := Catalog.Archive.kind
  key := ⟨"sys/ucs", "Common", "backup.ucs"⟩
  target := .installed
  patience := 8

/-- A device that is out of reach during a restore, and then is not ready. -/
def restarting : Device.Script where
  stored := ⟨[("sys/ucs:/Common/backup.ucs", .empty)]⟩
  polls := [(.restoreConfig, .error ⟨.unreachable, none, none⟩),
    (.restoreConfig, .error (.answered 503 (some "starting up")))]

/-- The restore is polled through the outage, and ends at the refusal after
it. -/
theorem restarting_ends :
    ((restoration.reconcile .empty).run Device.scripted restarting).calls =
        [⟨.lookUp restoration.key, .ok true⟩, ⟨.read restoration.key, .ok .empty⟩,
          ⟨.submit .restoreConfig restoration.key .empty, .ok "task-1"⟩,
          ⟨.poll .restoreConfig "task-1", .error ⟨.unreachable, none, none⟩⟩,
          ⟨.poll .restoreConfig "task-1", .error (.answered 503 (some "starting up"))⟩] ∧
      ∃ changed, ((restoration.reconcile .empty).run Device.scripted restarting).result =
        some (.error ⟨changed, .transient (some 503) "starting up"⟩) := by
  have hcalls : ((restoration.reconcile .empty).run Device.scripted restarting).calls =
      [⟨.lookUp restoration.key, .ok true⟩, ⟨.read restoration.key, .ok .empty⟩,
        ⟨.submit .restoreConfig restoration.key .empty, .ok "task-1"⟩,
        ⟨.poll .restoreConfig "task-1", .error ⟨.unreachable, none, none⟩⟩] ++
      ⟨.poll .restoreConfig "task-1", .error (.answered 503 (some "starting up"))⟩ :: [] :=
    rfl
  exact ⟨hcalls, (ends_of_unforgiven hcalls rfl fun _ _ =>
    FollowUp.not_forgives_answered).2⟩

/-! ## Whether anything had changed -/

/-- A follow-up that fails is counted as a change. -/
theorem Errands.changed_of_error {followUps : List FollowUp} {report : Report}
    (h : pass.Errands want followUps report errands result)
    (hresult : result = some (.error setback)) : setback.changed = true := by
  induction h with
  | finished report => cases hresult
  | followed tracked rest ih => exact ih hresult
  | failed tracked =>
      obtain rfl := Except.error.inj (Option.some.inj hresult)
      rfl
  | brokenOff tracked => cases hresult

theorem not_changed_afterRemoval {reply : Except Failure Bool}
    (h : afterRemoval reply = .error setback) : setback.changed = false := by
  match reply with
  | .ok true | .error failure =>
      obtain rfl := Except.error.inj h
      rfl
  | .ok false => cases h

/-- A failed pass with a modification behind it says that something changed,
unless it was removing the resource. -/
theorem Minutes.changed_iff_of_modified (h : pass.Minutes params own errands result)
    (hresult : result = some (.error setback))
    (hmodified : ∃ call ∈ own ++ Errand.callsOf errands, call.modifies = true) :
    setback.changed = true ↔ pass.target ≠ .absent := by
  have hlooks : ¬∀ call ∈ own ++ Errand.callsOf errands, call.modifies = false := fun hall => by
    obtain ⟨call, hcall, hmodifies⟩ := hmodified
    rw [hall call hcall] at hmodifies
    cases hmodifies
  cases h with
  | stopped looked =>
      rw [Errand.callsOf_nil, List.append_nil] at hlooks
      exact absurd (fun call hcall => not_modifies_of_looks (looked call hcall)) hlooks
  | refused looked =>
      rw [Errand.callsOf_nil, List.append_nil] at hlooks
      refine absurd (List.forall_mem_append.mpr ⟨fun call hcall =>
        not_modifies_of_looks (looked call hcall), List.forall_mem_singleton.mpr ?_⟩) hlooks
      exact Bool.and_false _
  | removed reply target =>
      have hunchanged := not_changed_afterRemoval (Option.some.inj hresult)
      simp [hunchanged, target]
  | unflagged failure target =>
      obtain rfl := Except.error.inj (Option.some.inj hresult)
      simp [target]
  | created target _ _ _ rest => simp [rest.changed_of_error hresult, target]
  | updated target _ _ _ _ _ rest => simp [rest.changed_of_error hresult, target]

/-- Against every device, a failed pass with a successful modification behind it
says that something changed, unless it was removing the resource. -/
theorem modification_told_iff {σ : Type} {device : Device σ} {state : σ}
    (hresult : ((pass.reconcile params).run device state).result = some (.error setback))
    (hmodified : ∃ call ∈ ((pass.reconcile params).run device state).calls,
      call.modifies = true) :
    setback.changed = true ↔ pass.target ≠ .absent := by
  obtain ⟨own, errands, hminutes, hcalls⟩ :=
    minutes_of_branch (branch_run device (pass.reconcile params) state)
  rw [hcalls] at hmodified
  exact hminutes.changed_iff_of_modified hresult hmodified

/-- Creates a policy where there is none, and applies it. -/
def activation : Pass where
  kind := Catalog.Policy.kind .second
  key := ⟨"asm/policies", "Common", "r1"⟩
  target := .activated
  patience := 8

/-- A device that holds nothing, and fails to apply a policy. -/
def unfit : Device.Script where
  polls := [(.applyPolicy, .ok ⟨.failed "out of memory", none⟩)]

/-- The policy is created and not applied, and that something changed is said. -/
theorem unfit_told :
    ∃ setback, ((activation.reconcile .empty).run Device.scripted unfit).result =
        some (.error setback) ∧
      (∃ call ∈ ((activation.reconcile .empty).run Device.scripted unfit).calls,
        call.modifies = true) ∧ setback.changed = true := by
  have hmodified : ∃ call ∈ ((activation.reconcile .empty).run Device.scripted unfit).calls,
      call.modifies = true := List.any_eq_true.mp (by decide +kernel)
  exact ⟨_, rfl, hmodified, (modification_told_iff rfl hmodified).mpr (by decide)⟩

/-- Removes some settings that are always there. -/
def clearance : Pass where
  kind := { name := "test/kind", schema := ⟨[Field.text "mode"]⟩, targets := [.absent],
            singleton := true }
  key := ⟨"test/kind", "Common", "r1"⟩
  target := .absent
  patience := 8

/-- A device that does not answer the next look-up. -/
def unready : Device.Script where
  stored := ⟨[("test/kind:/Common/r1", ⟨[("mode", .text "napt")]⟩)]⟩
  failures := [(.lookUp, .answered 503 none)]

/-- The settings are deleted, and that something changed is not said. -/
theorem unready_untold :
    (∃ call ∈ ((clearance.reconcile .empty).run Device.scripted unready).calls,
        call.modifies = true) ∧
      (((clearance.reconcile .empty).run Device.scripted unready).state.stored.get?
        clearance.key.display).isNone = true ∧
      ((clearance.reconcile .empty).run Device.scripted unready).result =
        some (.error ⟨false, .transient (some 503) "unexpected response with status 503"⟩) :=
  ⟨List.any_eq_true.mp (by decide +kernel), by decide +kernel, rfl⟩

/-! ## Changes that nothing has made -/

/-- An errand that put the device to no work modified nothing, and what failed
on its submission was not forgiven. -/
theorem not_modifies_of_idle {errand : Errand}
    (h : (pass.errandTalk want errand.followUp).Branch errand.calls errand.ending)
    (hidle : errand.Idle) :
    ∀ call ∈ errand.calls, call.modifies = false ∧ (call.request.isSubmission = true →
      ∀ failure, call.failure? = some failure → ¬errand.followUp.Forgives failure) := by
  obtain ⟨polls, htracks, -⟩ := Wait.branch_track h
  obtain ⟨followUp, calls, ending⟩ := errand
  dsimp only at htracks hidle ⊢
  cases htracks with
  | polls opens borne =>
      cases opens with
      | watched mode =>
          intro call hcall
          obtain ⟨sighting, -, rfl⟩ := List.mem_map.mp hcall
          exact ⟨rfl, nofun⟩
      | submitted mode id =>
          rcases hidle with hwatch | ⟨failure, hhead, -⟩
          · cases mode.symm.trans hwatch
          · cases hhead
      | assumed mode tolerated =>
          rcases hidle with hwatch | ⟨failure, hhead, hunforgiven⟩
          · cases mode.symm.trans hwatch
          · obtain rfl := Option.some.inj hhead
            exact absurd (FollowUp.forgives_iff.mpr tolerated) hunforgiven
  | refused opens =>
      cases opens with
      | refused mode fatal =>
          refine List.forall_mem_singleton.mpr ⟨rfl, fun _ failure hfailed => ?_⟩
          obtain rfl := Option.some.inj hfailed
          rw [FollowUp.forgives_iff, fatal]
          exact Bool.false_ne_true

/-- An errand that put the device to work began with a submission that was
accepted, or was taken to be. -/
theorem starts_of_not_idle {errand : Errand}
    (h : (pass.errandTalk want errand.followUp).Branch errand.calls errand.ending)
    (hbusy : ¬errand.Idle) :
    ∃ call others, errand.calls = call :: others ∧ (call.modifies = true ∨
      ∃ failure, call.request.isSubmission = true ∧ call.failure? = some failure ∧
        errand.followUp.Forgives failure) := by
  obtain ⟨polls, htracks, -⟩ := Wait.branch_track h
  obtain ⟨followUp, calls, ending⟩ := errand
  dsimp only at htracks hbusy ⊢
  cases htracks with
  | polls opens borne =>
      cases opens with
      | watched mode => exact absurd (Or.inl mode) hbusy
      | submitted mode id => exact ⟨_, _, rfl, Or.inl rfl⟩
      | assumed mode tolerated =>
          exact ⟨_, _, rfl, Or.inr ⟨_, rfl, rfl, FollowUp.forgives_iff.mpr tolerated⟩⟩
  | refused opens =>
      cases opens with
      | refused mode fatal =>
          refine absurd (Or.inr ⟨_, rfl, fun hforgives => ?_⟩) hbusy
          rw [FollowUp.forgives_iff, fatal] at hforgives
          cases hforgives

/-- The own calls of a pass that fails after a change have modified something, or
they were looks. -/
theorem Minutes.modified_or_looked {fault : Fault}
    (h : pass.Minutes params own errands result)
    (hresult : result = some (.error ⟨true, fault⟩)) :
    (∃ call ∈ own, call.modifies = true) ∨ ∀ call ∈ own, call.looks = true := by
  cases h with
  | stopped looked => exact Or.inr looked
  | refused looked => cases hresult
  | removed reply => cases not_changed_afterRemoval (Option.some.inj hresult)
  | unflagged failure =>
      exact Or.inl ⟨_, List.mem_append_right _ List.mem_cons_self, rfl⟩
  | created => exact Or.inl ⟨_, List.mem_append_right _ List.mem_cons_self, rfl⟩
  | @updated _ raw _ sent =>
      cases sent with
      | none => exact Or.inr (List.forall_mem_append.mpr
          ⟨looks_of_mem_opening, List.forall_mem_singleton.mpr rfl⟩)
      | some body =>
          exact Or.inl ⟨⟨.update pass.key body, .ok ()⟩,
            List.mem_append_right _ (List.mem_cons_of_mem _ List.mem_cons_self), rfl⟩

theorem LooksOn.not_modifies (h : pass.LooksOn params calls result) :
    ∀ call ∈ calls, call.modifies = false := by
  obtain ⟨own, errands, hminutes, rfl, hown, hidle⟩ := h
  refine List.forall_mem_append.mpr ⟨fun call hcall =>
    not_modifies_of_looks (hown call hcall), fun call hcall => ?_⟩
  obtain ⟨errand, hmem, hinside⟩ := List.mem_flatMap.mp hcall
  obtain ⟨want, followUps, report, herrands⟩ :=
    hminutes.errands_of_begun (List.ne_nil_of_mem hmem)
  exact (not_modifies_of_idle (herrands.branch_of_mem errand hmem) (hidle errand hmem) call
    hinside).1

theorem LooksOn.not_assumes (h : pass.LooksOn params calls result) :
    ¬pass.Assumes params calls result := by
  rintro ⟨earlier, call, later, failure, followUp, hsplit, hsubmission, hfailed, hserves,
    hforgives⟩
  obtain ⟨own, errands, hminutes, hcalls, hown, hidle⟩ := h
  rcases split_at_call (hcalls.symm.trans hsplit) with ⟨others, rfl, -⟩ | ⟨start, rfl, hrest⟩
  · -- the submission is no look
    rw [failure?_of_looks (hown call (by simp))] at hfailed
    cases hfailed
  · obtain ⟨errand, hmem, hinside, hserved⟩ := Errand.exists_of_split hrest
    have hother : pass.Serves params calls result (own ++ start).length errand.followUp :=
      ⟨own, errands, hminutes, hcalls, by simp, by simpa using hserved⟩
    obtain rfl := serves_unique hserves hother
    obtain ⟨want, followUps, report, herrands⟩ :=
      hminutes.errands_of_begun (List.ne_nil_of_mem hmem)
    exact (not_modifies_of_idle (herrands.branch_of_mem errand hmem) (hidle errand hmem) call
      hinside).2 hsubmission failure hfailed hforgives

/-- A pass whose errands are not all idle has modified something, or has assumed
so. -/
theorem modifies_or_assumes_of_busy {errand : Errand}
    (hminutes : pass.Minutes params own errands result) (hmem : errand ∈ errands)
    (hbusy : ¬errand.Idle) :
    (∃ call ∈ own ++ Errand.callsOf errands, call.modifies = true) ∨
      pass.Assumes params (own ++ Errand.callsOf errands) result := by
  obtain ⟨want, followUps, report, herrands⟩ :=
    hminutes.errands_of_begun (List.ne_nil_of_mem hmem)
  obtain ⟨call, others, hcalls, hstarts⟩ :=
    starts_of_not_idle (herrands.branch_of_mem errand hmem) hbusy
  obtain ⟨done, rest, rfl⟩ := List.append_of_mem hmem
  rcases hstarts with hmodifies | ⟨failure, hsubmission, hfailed, hforgives⟩
  · exact Or.inl ⟨call, List.mem_append_right _
      (List.mem_flatMap.mpr ⟨errand, hmem, by simp [hcalls]⟩), hmodifies⟩
  · refine Or.inr ⟨own ++ Errand.callsOf done, call, others ++ Errand.callsOf rest, failure,
      errand.followUp, ?_, hsubmission, hfailed, ⟨own, _, hminutes, rfl, by simp, ?_⟩, hforgives⟩
    · simp [Errand.callsOf, hcalls]
    · simpa using Errand.servedAt_start done hcalls

/-- Against every device, a failed pass that says that something changed has
modified something, or has taken a submission that failed to be accepted,
unless it has only looked on. -/
theorem change_true_iff {σ : Type} {device : Device σ} {state : σ} {fault : Fault}
    (hresult : ((pass.reconcile params).run device state).result =
      some (.error ⟨true, fault⟩)) :
    ((∃ call ∈ ((pass.reconcile params).run device state).calls, call.modifies = true) ∨
        pass.Assumes params ((pass.reconcile params).run device state).calls
          ((pass.reconcile params).run device state).result) ↔
      ¬pass.LooksOn params ((pass.reconcile params).run device state).calls
        ((pass.reconcile params).run device state).result := by
  constructor
  · rintro (⟨call, hcall, hmodifies⟩ | hassumes) hlooksOn
    · rw [hlooksOn.not_modifies call hcall] at hmodifies
      cases hmodifies
    · exact hlooksOn.not_assumes hassumes
  · intro hbusy
    obtain ⟨own, errands, hminutes, hcalls⟩ :=
      minutes_of_branch (branch_run device (pass.reconcile params) state)
    by_cases hidle : ∀ errand ∈ errands, errand.Idle
    · rcases hminutes.modified_or_looked hresult with ⟨call, hcall, hmodifies⟩ | hlooked
      · exact Or.inl ⟨call, hcalls ▸ List.mem_append_left _ hcall, hmodifies⟩
      · exact absurd ⟨own, errands, hminutes, hcalls, hlooked, hidle⟩ hbusy
    · obtain ⟨errand, hmem, hworks⟩ : ∃ errand ∈ errands, ¬errand.Idle := by
        simpa using hidle
      rw [hcalls]
      exact modifies_or_assumes_of_busy hminutes hmem hworks

/-- A device that accepts to apply a policy, and then is not ready. -/
def interrupted : Device.Script where
  stored := ⟨[("asm/policies:/Common/r1", ⟨[("active", .flag false)]⟩)]⟩
  polls := [(.applyPolicy, .error (.answered 503 none))]

/-- A submission that was accepted is no mere looking on. -/
theorem interrupted_works :
    (∃ fault, ((activation.reconcile .empty).run Device.scripted interrupted).result =
        some (.error ⟨true, fault⟩)) ∧
      ¬activation.LooksOn .empty
        ((activation.reconcile .empty).run Device.scripted interrupted).calls
        ((activation.reconcile .empty).run Device.scripted interrupted).result := by
  have hmodified :
      ∃ call ∈ ((activation.reconcile .empty).run Device.scripted interrupted).calls,
        call.modifies = true := List.any_eq_true.mp (by decide +kernel)
  exact ⟨⟨_, rfl⟩, (change_true_iff rfl).mp (Or.inl hmodified)⟩

/-- A device that does not accept to apply a policy. -/
def busy : Device.Script where
  stored := ⟨[("asm/policies:/Common/r1", ⟨[("active", .flag false)]⟩)]⟩
  failures := [(.submit, .answered 503 (some "busy"))]

/-- Nothing is modified, nor taken to be accepted, and it is said that something
changed. -/
theorem busy_overtold :
    ((activation.reconcile .empty).run Device.scripted busy).result =
        some (.error ⟨true, .transient (some 503) "busy"⟩) ∧
      (∀ call ∈ ((activation.reconcile .empty).run Device.scripted busy).calls,
        call.modifies = false) ∧
      ¬activation.Assumes .empty
        ((activation.reconcile .empty).run Device.scripted busy).calls
        ((activation.reconcile .empty).run Device.scripted busy).result := by
  have hcalls : ((activation.reconcile .empty).run Device.scripted busy).calls =
      [⟨.lookUp activation.key, .ok true⟩,
        ⟨.read activation.key, .ok ⟨[("active", .flag false)]⟩⟩,
        ⟨.submit .applyPolicy activation.key .empty,
          .error (.answered 503 (some "busy"))⟩] := rfl
  rw [hcalls]
  refine ⟨rfl, by simp [Call.modifies, Request.isModification, Call.failure?], ?_⟩
  rintro ⟨earlier, call, later, failure, followUp, hsplit, -, hfailed, -, hforgives⟩
  have hmem : call ∈ earlier ++ call :: later := by simp
  rw [← hsplit] at hmem
  rcases hmem with _ | ⟨_, _ | ⟨_, _ | ⟨_, hnil⟩⟩⟩
  · cases hfailed
  · cases hfailed
  · obtain rfl := Option.some.inj hfailed
    exact FollowUp.not_forgives_answered hforgives
  · cases hnil

end Pass
end DesiredState
