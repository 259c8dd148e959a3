import DesiredState.Proofs.Pass.Course

/-!
# The minutes of a pass

The course of a pass says which calls may follow which.  The minutes say more:
which calls a pass made of its own and which it made for a follow-up, how each
follow-up ended, and what the pass came to with that.

* `Errand` — one follow-up that was begun, with its calls and its ending;
* `Errands` — follow-ups in turn, up to the first one that does not end well;
* `Minutes` — the own calls of a pass, its errands and its result, with one
  case for each way in which a pass can end.

Every branch of a pass has minutes (`minutes_of_branch`), and the calls of a
branch leave no choice for them: own calls are never about a job, the calls of
an errand always are, and the errands follow each other without overlap
(`Minutes.errands_unique`).  So it is well defined for which follow-up a call
is made, if for any (`serves_unique`).
-/

namespace DesiredState

/-- Whether a request only looks at a resource. -/
def Request.isLook : Request → Bool
  | .lookUp _ | .read _ => true
  | _ => false

/-- A look is not about a job. -/
theorem Request.isAboutJob_of_isLook {request : Request} (h : request.isLook = true) :
    request.isAboutJob = false := by
  cases request with
  | submit _ _ _ | poll _ _ => cases h
  | _ => rfl

/-- Whether a call looks at a resource, and is answered. -/
def Call.looks (call : Call) : Bool :=
  call.request.isLook && call.failure?.isNone

/-- One follow-up that a pass has begun. -/
structure Errand where
  followUp : FollowUp
  /-- The calls that were made for it, in order. -/
  calls : List Call
  /-- How it ended; missing where it was broken off. -/
  ending : Option (Except Fault Outcome)

namespace Errand

/-- The calls of some errands, in order. -/
def callsOf (errands : List Errand) : List Call :=
  errands.flatMap calls

/-- The follow-up for which the call at a position is made. -/
def servedAt : List Errand → Nat → Option FollowUp
  | [], _ => none
  | errand :: rest, position =>
      if position < errand.calls.length then
        some errand.followUp
      else
        servedAt rest (position - errand.calls.length)

@[simp] theorem callsOf_nil : callsOf [] = [] :=
  rfl

@[simp] theorem callsOf_cons (errand : Errand) (rest : List Errand) :
    callsOf (errand :: rest) = errand.calls ++ callsOf rest :=
  List.flatMap_cons

end Errand

/-- What a follow-up has to report of its outcome. -/
def FollowUp.reported (followUp : FollowUp) (outcome : Outcome) : Attributes :=
  (followUp.report.map fun hook => hook outcome).getD .empty

/-- A report with what a follow-up has to report of its outcome. -/
def Report.extended (report : Report) (followUp : FollowUp) (outcome : Outcome) : Report :=
  ⟨true, report.attributes.update (followUp.reported outcome)⟩

/-- A call in the middle of two lists stands in the first one or in the second. -/
theorem split_at_call {first second earlier later : List Call} {call : Call}
    (h : first ++ second = earlier ++ call :: later) :
    (∃ rest, first = earlier ++ call :: rest ∧ later = rest ++ second) ∨
      ∃ start, earlier = first ++ start ∧ second = start ++ call :: later := by
  rcases List.append_eq_append_iff.mp h with ⟨start, hearlier, hsecond⟩ | ⟨start, hfirst, hlater⟩
  · exact Or.inr ⟨start, hearlier, hsecond⟩
  · cases start with
    | nil =>
        rw [List.append_nil] at hfirst
        exact Or.inr ⟨[], by rw [hfirst, List.append_nil], hlater.symm⟩
    | cons head rest =>
        obtain ⟨rfl, hrest⟩ := List.cons.inj hlater
        exact Or.inl ⟨rest, hfirst, hrest⟩

namespace Pass

open Conversation

/-- The talk of one follow-up. -/
def errandTalk (pass : Pass) (want : Attributes) (followUp : FollowUp) :
    Conversation (Except Fault Outcome) :=
  followUp.wait.track pass.patience (pass.operationOf want followUp)

/-- The errands for the follow-ups that are due, and what a pass comes to with
them.  A follow-up that does not end well is the last one. -/
inductive Errands (pass : Pass) (want : Attributes) :
    List FollowUp → Report → List Errand → Option (Except Setback Report) → Prop
  | finished (report : Report) : Errands pass want [] report [] (some (.ok report))
  | followed {followUp : FollowUp} {later : List FollowUp} {report : Report}
      {calls : List Call} {outcome : Outcome} {errands : List Errand}
      {result : Option (Except Setback Report)}
      (tracked : (pass.errandTalk want followUp).Branch calls (some (.ok outcome)))
      (rest : Errands pass want later (report.extended followUp outcome) errands result) :
      Errands pass want (followUp :: later) report
        (⟨followUp, calls, some (.ok outcome)⟩ :: errands) result
  | failed {followUp : FollowUp} {later : List FollowUp} {report : Report}
      {calls : List Call} {fault : Fault}
      (tracked : (pass.errandTalk want followUp).Branch calls (some (.error fault))) :
      Errands pass want (followUp :: later) report [⟨followUp, calls, some (.error fault)⟩]
        (some (.error ⟨true, fault⟩))
  | brokenOff {followUp : FollowUp} {later : List FollowUp} {report : Report}
      {calls : List Call} (tracked : (pass.errandTalk want followUp).Branch calls none) :
      Errands pass want (followUp :: later) report [⟨followUp, calls, none⟩] none

/-- The call by which a pass learns whether its resource is there; there is none
where it always is. -/
def opening (pass : Pass) (found : Bool) : List Call :=
  if pass.kind.singleton then [] else [⟨.lookUp pass.key, .ok found⟩]

/-- Whether there is anything to write to a resource. -/
def writes (pass : Pass) (want held changes : Attributes) : Bool :=
  !changes.isEmpty || (pass.flagsOfUpdate (pass.kind.observe held want)).isSome

/-- Updates that were answered. -/
def updatesOf (pass : Pass) (bodies : Option Attributes) : List Call :=
  bodies.toList.map fun body => ⟨.update pass.key body, .ok ()⟩

/-- What a pass comes to when it looks for a resource that it has deleted. -/
def afterRemoval : Except Failure Bool → Except Setback Report
  | .ok true => .error ⟨false, .fatal "failed to delete resource"⟩
  | .ok false => .ok ⟨true, .empty⟩
  | .error failure => .error ⟨false, failure.fault⟩

/-- The own calls of a pass, its errands, and what it comes to. -/
inductive Minutes (pass : Pass) (params : Attributes) :
    List Call → List Errand → Option (Except Setback Report) → Prop
  /-- It has only looked. -/
  | stopped {own : List Call} {ending : Except Setback Report}
      (looked : ∀ call ∈ own, call.looks = true)
      (unchanged : ∀ setback, ending = .error setback → setback.changed = false)
      (quiet : ∀ report, ending = .ok report → pass.checkOnly = false →
        report.changed = false) :
      Minutes pass params own [] (some ending)
  /-- A look, or the first request to change something, has failed. -/
  | refused {own : List Call} {request : Request} {failure : Failure}
      (looked : ∀ call ∈ own, call.looks = true)
      (jobless : request.isAboutJob = false) :
      Minutes pass params (own ++ [⟨request, .error failure⟩]) []
        (some (.error ⟨false, failure.fault⟩))
  | removed (reply : Except Failure Bool) (target : pass.target = .absent)
      (live : pass.checkOnly = false) :
      Minutes pass params
        (pass.opening true ++ [⟨.delete pass.key, .ok ()⟩, ⟨.lookUp pass.key, reply⟩]) []
        (some (afterRemoval reply))
  /-- The flags could not be set after the creation. -/
  | unflagged {body flags : Attributes} (failure : Failure)
      (target : pass.target ≠ .absent) (live : pass.checkOnly = false) :
      Minutes pass params
        (pass.opening false ++
          [⟨.create pass.key body, .ok ()⟩, ⟨.update pass.key flags, .error failure⟩]) []
        (some (.error ⟨true, failure.fault⟩))
  | created {want creation : Attributes} {errands : List Errand}
      {result : Option (Except Setback Report)}
      (target : pass.target ≠ .absent) (live : pass.checkOnly = false)
      (valid : pass.kind.want pass.key.partition params pass.target = .ok want)
      (complete : pass.kind.creation want = .ok creation)
      (rest : pass.Errands want (pass.due (pass.kind.observe creation want) true)
        ⟨true, Report.attributesOf want pass.kind.reportable creation⟩ errands result) :
      Minutes pass params
        (pass.opening false ++ ⟨.create pass.key (pass.creationBody creation), .ok ()⟩ ::
          pass.updatesOf pass.flagsAfterCreation) errands result
  | updated {want raw changes : Attributes} {sent : Option Attributes}
      {errands : List Errand} {result : Option (Except Setback Report)}
      (target : pass.target ≠ .absent) (live : pass.checkOnly = false)
      (valid : pass.kind.want pass.key.partition params pass.target = .ok want)
      (changed : pass.kind.changes want (pass.kind.read raw) = .ok changes)
      (sent_eq : sent = if pass.writes want (pass.kind.read raw) changes then
        some (pass.updateBody want (pass.kind.read raw) changes) else none)
      (needed : sent.isSome = true ∨
        pass.followUpsDue (pass.kind.observe (pass.kind.read raw) want) = true)
      (rest : pass.Errands want
        (pass.due (pass.kind.observe (pass.kind.read raw) want) sent.isSome)
        ⟨true, Report.attributesOf want pass.kind.reportable changes⟩ errands result) :
      Minutes pass params
        (pass.opening true ++ ⟨.read pass.key, .ok raw⟩ :: pass.updatesOf sent) errands result

variable {pass : Pass} {params want : Attributes} {calls own : List Call}
  {errands : List Errand} {result : Option (Except Setback Report)}

/-! ## Every branch has minutes -/

theorem errands_of_runFollowUps {satisfied wrote : Bool} {followUps : List FollowUp}
    {report : Report}
    (h : (pass.runFollowUps want satisfied wrote followUps report).Branch calls result) :
    ∃ errands, pass.Errands want
        (followUps.filter fun followUp => followUp.isDue satisfied wrote) report errands
        result ∧ calls = Errand.callsOf errands := by
  induction followUps generalizing report calls with
  | nil =>
      obtain ⟨rfl, rfl⟩ := branch_succeed h
      exact ⟨[], .finished report, rfl⟩
  | cons followUp later ih =>
      unfold runFollowUps at h
      split at h
      · rename_i hdue
        rw [List.filter_cons, if_pos hdue]
        rcases branch_bind h with ⟨earlier, ending, rest, rfl, htrack, hrest⟩ | ⟨htrack, rfl⟩
        · cases ending with
          | error fault =>
              obtain ⟨rfl, rfl⟩ := branch_fail hrest
              exact ⟨[_], .failed htrack, by simp⟩
          | ok outcome =>
              obtain ⟨errands, herrands, rfl⟩ := ih hrest
              exact ⟨_ :: errands, .followed htrack herrands, by simp⟩
        · exact ⟨[_], .brokenOff htrack, by simp⟩
      · rename_i hidle
        rw [List.filter_cons, if_neg hidle]
        exact ih h

theorem errands_of_followUp {observed : Condition} {wrote : Bool} {report : Report}
    (h : (pass.followUp want observed wrote report).Branch calls result) :
    ∃ errands, pass.Errands want (pass.due observed wrote) report errands result ∧
      calls = Errand.callsOf errands :=
  errands_of_runFollowUps h

/-- Each of the errands of a pass has followed the talk of its follow-up. -/
theorem Errands.branch_of_mem {followUps : List FollowUp} {report : Report}
    (h : pass.Errands want followUps report errands result) :
    ∀ errand ∈ errands, (pass.errandTalk want errand.followUp).Branch errand.calls
      errand.ending := by
  induction h with
  | finished report => exact List.forall_mem_nil _
  | followed tracked rest ih => exact List.forall_mem_cons.mpr ⟨tracked, ih⟩
  | failed tracked | brokenOff tracked => exact List.forall_mem_singleton.mpr tracked

theorem looks_of_mem_opening {found : Bool} : ∀ call ∈ pass.opening found, call.looks = true := by
  unfold opening
  split
  · exact List.forall_mem_nil _
  · exact List.forall_mem_singleton.mpr rfl

theorem minutes_of_remove (htarget : pass.target = .absent)
    (h : pass.remove.Branch calls result) :
    ∃ own errands, pass.Minutes params (pass.opening true ++ own) errands result ∧
      calls = own ++ Errand.callsOf errands := by
  unfold remove at h
  split at h
  · rename_i hcheck
    obtain ⟨rfl, rfl⟩ := branch_succeed h
    refine ⟨[], [], .stopped ?_ nofun fun _ _ hlive => ?_, rfl⟩
    · rw [List.append_nil]
      exact looks_of_mem_opening
    · rw [hcheck] at hlive
      cases hlive
  · rename_i hlive
    have hlive := Bool.eq_false_iff.mpr hlive
    rcases branch_require h with ⟨failure, rfl, rfl⟩ | ⟨-, rest, rfl, hrest⟩
    · exact ⟨[_], [], .refused looks_of_mem_opening rfl, rfl⟩
    · rcases branch_require hrest with ⟨failure, rfl, rfl⟩ | ⟨stillThere, last, rfl, hlast⟩
      · exact ⟨_, [], .removed (.error failure) htarget hlive, rfl⟩
      · cases stillThere with
        | true =>
            obtain ⟨rfl, rfl⟩ := branch_fail hlast
            exact ⟨_, [], .removed (.ok true) htarget hlive, rfl⟩
        | false =>
            obtain ⟨rfl, rfl⟩ := branch_succeed hlast
            exact ⟨_, [], .removed (.ok false) htarget hlive, rfl⟩

theorem minutes_of_create (htarget : pass.target ≠ .absent)
    (hvalid : pass.kind.want pass.key.partition params pass.target = .ok want)
    (h : (pass.create want).Branch calls result) :
    ∃ own errands, pass.Minutes params (pass.opening false ++ own) errands result ∧
      calls = own ++ Errand.callsOf errands := by
  have hlooked : ∀ call ∈ pass.opening false ++ [], call.looks = true := by
    rw [List.append_nil]
    exact looks_of_mem_opening
  rcases branch_obtain h with ⟨fault, -, rfl, rfl⟩ | ⟨creation, hcreation, hrest⟩
  · exact ⟨[], [], .stopped hlooked (fun _ heq => Except.error.inj heq ▸ rfl) nofun, rfl⟩
  · dsimp only at hrest
    split at hrest
    · rename_i hcheck
      obtain ⟨rfl, rfl⟩ := branch_succeed hrest
      refine ⟨[], [], .stopped hlooked nofun fun _ _ hlive => ?_, rfl⟩
      rw [hcheck] at hlive
      cases hlive
    · rename_i hlive
      have hlive := Bool.eq_false_iff.mpr hlive
      rcases branch_require hrest with ⟨failure, rfl, rfl⟩ | ⟨-, rest, rfl, hrest⟩
      · exact ⟨[_], [], .refused looks_of_mem_opening rfl, rfl⟩
      · have hcreated : ∀ errands, pass.Errands want
            (pass.due (pass.kind.observe creation want) true)
            ⟨true, Report.attributesOf want pass.kind.reportable creation⟩ errands result →
            pass.Minutes params (pass.opening false ++
              ⟨.create pass.key (pass.creationBody creation), .ok ()⟩ ::
                pass.updatesOf pass.flagsAfterCreation) errands result :=
          fun errands => .created htarget hlive hvalid hcreation
        cases hflags : pass.flagsAfterCreation with
        | none =>
            rw [hflags] at hrest hcreated
            obtain ⟨errands, herrands, rfl⟩ := errands_of_followUp hrest
            exact ⟨_, errands, hcreated errands herrands, rfl⟩
        | some flags =>
            rw [hflags] at hrest hcreated
            rcases branch_require hrest with ⟨failure, rfl, rfl⟩ | ⟨-, later, rfl, hlater⟩
            · exact ⟨_, [], .unflagged failure htarget hlive, rfl⟩
            · obtain ⟨errands, herrands, rfl⟩ := errands_of_followUp hlater
              exact ⟨_, errands, hcreated errands herrands, rfl⟩

theorem minutes_of_converge {raw changes : Attributes} (htarget : pass.target ≠ .absent)
    (hvalid : pass.kind.want pass.key.partition params pass.target = .ok want)
    (hchanges : pass.kind.changes want (pass.kind.read raw) = .ok changes)
    (h : (pass.converge want (pass.kind.read raw) changes).Branch calls result) :
    ∃ own errands, pass.Minutes params
        (pass.opening true ++ ⟨.read pass.key, .ok raw⟩ :: own) errands result ∧
      calls = own ++ Errand.callsOf errands := by
  have hlooked : ∀ call ∈ pass.opening true ++ [⟨.read pass.key, .ok raw⟩],
      call.looks = true :=
    List.forall_mem_append.mpr ⟨looks_of_mem_opening, List.forall_mem_singleton.mpr rfl⟩
  unfold converge at h
  dsimp only at h
  split at h
  · obtain ⟨rfl, rfl⟩ := branch_succeed h
    exact ⟨[], [], .stopped hlooked nofun fun _ heq _ => Except.ok.inj heq ▸ rfl, rfl⟩
  · rename_i hneeded
    split at h
    · rename_i hcheck
      obtain ⟨rfl, rfl⟩ := branch_succeed h
      refine ⟨[], [], .stopped hlooked nofun fun _ _ hlive => ?_, rfl⟩
      rw [hcheck] at hlive
      cases hlive
    · rename_i hlive
      have hlive := Bool.eq_false_iff.mpr hlive
      split at h
      · rename_i hwrites
        rw [hwrites] at h
        have hsent : some (pass.updateBody want (pass.kind.read raw) changes) =
            if pass.writes want (pass.kind.read raw) changes then
              some (pass.updateBody want (pass.kind.read raw) changes) else none :=
          (if_pos hwrites).symm
        rcases branch_require h with ⟨failure, rfl, rfl⟩ | ⟨-, rest, rfl, hrest⟩
        · refine ⟨[_], [], ?_, rfl⟩
          rw [List.append_cons]
          exact .refused hlooked rfl
        · obtain ⟨errands, herrands, rfl⟩ := errands_of_followUp hrest
          exact ⟨_, errands,
            .updated htarget hlive hvalid hchanges hsent (Or.inl rfl) herrands, rfl⟩
      · rename_i hsilent
        have hsent : none = if pass.writes want (pass.kind.read raw) changes then
            some (pass.updateBody want (pass.kind.read raw) changes) else none :=
          (if_neg hsilent).symm
        rw [Bool.eq_false_iff.mpr hsilent] at h hneeded
        obtain ⟨errands, herrands, rfl⟩ := errands_of_followUp h
        exact ⟨[], errands,
          .updated htarget hlive hvalid hchanges hsent (Or.inr (by simpa using hneeded)) herrands,
          rfl⟩

theorem minutes_of_update (htarget : pass.target ≠ .absent)
    (hvalid : pass.kind.want pass.key.partition params pass.target = .ok want)
    (h : (pass.update want).Branch calls result) :
    ∃ own errands, pass.Minutes params (pass.opening true ++ own) errands result ∧
      calls = own ++ Errand.callsOf errands := by
  rcases branch_require h with ⟨failure, rfl, rfl⟩ | ⟨raw, rest, rfl, hrest⟩
  · exact ⟨[_], [], .refused looks_of_mem_opening rfl, rfl⟩
  · rcases branch_obtain hrest with ⟨fault, -, rfl, rfl⟩ | ⟨changes, hchanges, hlater⟩
    · exact ⟨[_], [], .stopped (List.forall_mem_append.mpr
        ⟨looks_of_mem_opening, List.forall_mem_singleton.mpr rfl⟩)
        (fun _ heq => Except.error.inj heq ▸ rfl) nofun, rfl⟩
    · obtain ⟨own, errands, hminutes, rfl⟩ := minutes_of_converge htarget hvalid hchanges hlater
      exact ⟨_ :: own, errands, hminutes, rfl⟩

theorem minutes_of_proceed {found : Bool}
    (hvalid : pass.kind.want pass.key.partition params pass.target = .ok want)
    (h : (pass.proceed want found).Branch calls result) :
    ∃ own errands, pass.Minutes params (pass.opening found ++ own) errands result ∧
      calls = own ++ Errand.callsOf errands := by
  have hlooked : ∀ call ∈ pass.opening found ++ [], call.looks = true := by
    rw [List.append_nil]
    exact looks_of_mem_opening
  unfold proceed at h
  split at h
  · rename_i htarget
    cases found with
    | true => exact minutes_of_remove htarget h
    | false =>
        obtain ⟨rfl, rfl⟩ := branch_succeed h
        exact ⟨[], [], .stopped hlooked nofun fun _ heq _ => Except.ok.inj heq ▸ rfl, rfl⟩
  · rename_i htarget
    cases found with
    | true => exact minutes_of_update htarget hvalid h
    | false =>
        simp only [Bool.false_eq_true, if_false] at h
        split at h
        · obtain ⟨rfl, rfl⟩ := branch_fail h
          exact ⟨[], [], .stopped hlooked (fun _ heq => Except.error.inj heq ▸ rfl) nofun, rfl⟩
        · exact minutes_of_create htarget hvalid h

/-- Every branch of a pass has minutes. -/
theorem minutes_of_branch (h : (pass.reconcile params).Branch calls result) :
    ∃ own errands, pass.Minutes params own errands result ∧
      calls = own ++ Errand.callsOf errands := by
  rcases branch_obtain h with ⟨fault, -, rfl, rfl⟩ | ⟨want, hvalid, hrest⟩
  · exact ⟨[], [], .stopped (List.forall_mem_nil _)
      (fun _ heq => Except.error.inj heq ▸ rfl) nofun, rfl⟩
  · split at hrest
    · rename_i hsingleton
      obtain ⟨own, errands, hminutes, rfl⟩ := minutes_of_proceed hvalid hrest
      have hopening : pass.opening true = [] := if_pos hsingleton
      rw [hopening, List.nil_append] at hminutes
      exact ⟨own, errands, hminutes, rfl⟩
    · rename_i hlisted
      rcases branch_require hrest with ⟨failure, rfl, rfl⟩ | ⟨found, rest, rfl, hlater⟩
      · have hrefused : pass.Minutes params ([] ++ [⟨.lookUp pass.key, .error failure⟩]) []
            (some (.error ⟨false, failure.fault⟩)) :=
          .refused (List.forall_mem_nil _) rfl
        exact ⟨_, [], hrefused, rfl⟩
      · obtain ⟨own, errands, hminutes, rfl⟩ := minutes_of_proceed hvalid hlater
        have hopening : pass.opening found = [⟨.lookUp pass.key, .ok found⟩] := if_neg hlisted
        rw [hopening] at hminutes
        exact ⟨_, errands, hminutes, rfl⟩

/-! ## Minutes leave no choice -/

theorem isAboutJob_of_errandTalk {followUp : FollowUp}
    {ending : Option (Except Fault Outcome)}
    (h : (pass.errandTalk want followUp).Branch calls ending) :
    ∀ call ∈ calls, call.request.isAboutJob = true := by
  obtain ⟨polls, htracks, -⟩ := Wait.branch_track h
  exact htracks.isAboutJob

theorem Errands.isAboutJob {followUps : List FollowUp} {report : Report}
    (h : pass.Errands want followUps report errands result) :
    ∀ call ∈ Errand.callsOf errands, call.request.isAboutJob = true := by
  induction h with
  | finished report => exact List.forall_mem_nil _
  | followed tracked rest ih =>
      exact List.forall_mem_append.mpr ⟨isAboutJob_of_errandTalk tracked, ih⟩
  | failed tracked | brokenOff tracked =>
      exact List.forall_mem_append.mpr
        ⟨isAboutJob_of_errandTalk tracked, List.forall_mem_nil _⟩

/-- The calls of some errands for the same follow-ups tell them apart. -/
theorem Errands.unique {followUps : List FollowUp} {report : Report} {others : List Errand}
    {other : Option (Except Setback Report)}
    (h : pass.Errands want followUps report errands result)
    (hothers : pass.Errands want followUps report others other)
    (hsame : Errand.callsOf errands = Errand.callsOf others) : errands = others := by
  induction h generalizing others with
  | finished report =>
      cases hothers
      rfl
  | followed tracked rest ih =>
      cases hothers with
      | followed tracked' rest' =>
          obtain ⟨rfl, hlater, heq⟩ := branch_unique tracked tracked' hsame
          obtain rfl := Except.ok.inj (Option.some.inj heq)
          rw [ih rest' hlater]
      | failed tracked' => cases (branch_unique tracked tracked' hsame).2.2
      | brokenOff tracked' => cases (branch_unique tracked tracked' hsame).2.2
  | failed tracked =>
      cases hothers with
      | followed tracked' rest' => cases (branch_unique tracked tracked' hsame).2.2
      | failed tracked' =>
          obtain ⟨rfl, -, heq⟩ := branch_unique tracked tracked' hsame
          obtain rfl := Except.error.inj (Option.some.inj heq)
          rfl
      | brokenOff tracked' => cases (branch_unique tracked tracked' hsame).2.2
  | brokenOff tracked =>
      cases hothers with
      | followed tracked' rest' => cases (branch_unique tracked tracked' hsame).2.2
      | failed tracked' => cases (branch_unique tracked tracked' hsame).2.2
      | brokenOff tracked' =>
          obtain ⟨rfl, -⟩ := branch_unique tracked tracked' hsame
          rfl

theorem isAboutJob_of_looks {call : Call} (h : call.looks = true) :
    call.request.isAboutJob = false :=
  Request.isAboutJob_of_isLook (Bool.and_eq_true_iff.mp h).1

theorem isAboutJob_of_mem_updatesOf {body : Option Attributes} :
    ∀ call ∈ pass.updatesOf body, call.request.isAboutJob = false := by
  intro call hcall
  obtain ⟨_, -, rfl⟩ := List.mem_map.mp hcall
  rfl

/-- Own calls are never about a job. -/
theorem Minutes.isAboutJob_own (h : pass.Minutes params own errands result) :
    ∀ call ∈ own, call.request.isAboutJob = false := by
  have hopening : ∀ found, ∀ call ∈ pass.opening found, call.request.isAboutJob = false :=
    fun found call hcall => isAboutJob_of_looks (looks_of_mem_opening call hcall)
  cases h with
  | stopped looked => exact fun call hcall => isAboutJob_of_looks (looked call hcall)
  | refused looked jobless =>
      exact List.forall_mem_append.mpr ⟨fun call hcall => isAboutJob_of_looks (looked call hcall),
        List.forall_mem_singleton.mpr jobless⟩
  | removed reply =>
      exact List.forall_mem_append.mpr ⟨hopening true, by simp [Request.isAboutJob]⟩
  | unflagged failure =>
      exact List.forall_mem_append.mpr ⟨hopening false, by simp [Request.isAboutJob]⟩
  | created | updated =>
      exact List.forall_mem_append.mpr ⟨hopening _,
        List.forall_mem_cons.mpr ⟨rfl, isAboutJob_of_mem_updatesOf⟩⟩

/-- The calls of all errands are about jobs. -/
theorem Minutes.isAboutJob_errands (h : pass.Minutes params own errands result) :
    ∀ call ∈ Errand.callsOf errands, call.request.isAboutJob = true := by
  cases h with
  | created _ _ _ _ rest => exact rest.isAboutJob
  | updated _ _ _ _ _ _ rest => exact rest.isAboutJob
  | _ => exact List.forall_mem_nil _

/-- The own calls of a pass are those before the first call about a job. -/
theorem Minutes.own_eq (h : pass.Minutes params own errands result) :
    own = (own ++ Errand.callsOf errands).takeWhile fun call => !call.request.isAboutJob := by
  rw [List.takeWhile_append_of_pos fun call hcall => by rw [h.isAboutJob_own call hcall]; rfl]
  cases hcalls : Errand.callsOf errands with
  | nil => rw [List.takeWhile_nil, List.append_nil]
  | cons call rest =>
      have hjob : call.request.isAboutJob = true :=
        h.isAboutJob_errands call (hcalls ▸ List.mem_cons_self)
      rw [List.takeWhile_cons_of_neg (by simp [hjob]), List.append_nil]

/-- The calls of a pass tell its own ones apart from those of its errands. -/
theorem Minutes.own_unique {others : List Call} {otherErrands : List Errand}
    {other : Option (Except Setback Report)} (h : pass.Minutes params own errands result)
    (hother : pass.Minutes params others otherErrands other)
    (hsame : own ++ Errand.callsOf errands = others ++ Errand.callsOf otherErrands) :
    own = others := by
  rw [h.own_eq, hsame, ← hother.own_eq]

/-- The calls of a pass that has begun an errand tell all its errands apart. -/
theorem Minutes.errands_unique {others : List Call} {otherErrands : List Errand}
    {other : Option (Except Setback Report)} (h : pass.Minutes params own errands result)
    (hother : pass.Minutes params others otherErrands other)
    (hsame : own ++ Errand.callsOf errands = others ++ Errand.callsOf otherErrands)
    (hbegun : errands ≠ []) (hotherBegun : otherErrands ≠ []) : errands = otherErrands := by
  obtain rfl := h.own_unique hother hsame
  have hcalls := List.append_cancel_left hsame
  generalize hown : own = known at hother
  cases h with
  | created _ _ valid complete rest =>
      cases hother with
      | created _ _ valid' complete' rest' =>
          obtain rfl := Except.ok.inj (valid.symm.trans valid')
          obtain rfl := Except.ok.inj (complete.symm.trans complete')
          exact rest.unique rest' hcalls
      | updated =>
          -- one of them begins by creating the resource, the other by reading it
          unfold opening at hown
          split at hown <;> cases hown
      | _ => exact absurd rfl hotherBegun
  | updated _ _ valid changed sent_eq _ rest =>
      cases hother with
      | created =>
          unfold opening at hown
          split at hown <;> cases hown
      | updated _ _ valid' changed' sent_eq' _ rest' =>
          obtain rfl := Except.ok.inj (valid.symm.trans valid')
          obtain ⟨heq, -⟩ := List.cons.inj (List.append_cancel_left hown)
          cases heq
          obtain rfl := Except.ok.inj (changed.symm.trans changed')
          obtain rfl := sent_eq.trans sent_eq'.symm
          exact rest.unique rest' hcalls
      | _ => exact absurd rfl hotherBegun
  | _ => exact absurd rfl hbegun

/-- The call at a position is made for a follow-up. -/
def Serves (pass : Pass) (params : Attributes) (calls : List Call)
    (result : Option (Except Setback Report)) (position : Nat) (followUp : FollowUp) : Prop :=
  ∃ own errands, pass.Minutes params own errands result ∧
    calls = own ++ Errand.callsOf errands ∧ own.length ≤ position ∧
      Errand.servedAt errands (position - own.length) = some followUp

/-- A call is made for one follow-up at most. -/
theorem serves_unique {position : Nat} {followUp other : FollowUp}
    (h : pass.Serves params calls result position followUp)
    (hother : pass.Serves params calls result position other) : followUp = other := by
  obtain ⟨own, errands, hminutes, rfl, -, hserved⟩ := h
  obtain ⟨others, otherErrands, hotherMinutes, hsame, -, hotherServed⟩ := hother
  have hbegun : ∀ {errands : List Errand} {place : Nat} {followUp : FollowUp},
      Errand.servedAt errands place = some followUp → errands ≠ [] := by
    rintro errands place followUp hplace rfl
    cases hplace
  obtain rfl := hminutes.errands_unique hotherMinutes hsame (hbegun hserved)
    (hbegun hotherServed)
  obtain rfl := hminutes.own_unique hotherMinutes hsame
  exact Option.some.inj (hserved.symm.trans hotherServed)

end Pass
end DesiredState
