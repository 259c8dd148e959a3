import DesiredState.Proofs.Pass.Offline
import DesiredState.Proofs.Wait

/-!
# The course of a pass

Which calls a pass may make, and in which order, whatever the device answers.
Without transactions this order is all that protects a resource: it is looked
up before it is read, read before it is compared, and written before anything
is tracked.

The course is given as a grammar of call lists, one predicate for each stage:

* `First` — a request, with what may follow its answer;
* `InTurn` — follow-ups one after the other, each of which starts only after the
  one before it has ended well;
* `Converges` — at most one update, then the follow-ups that are due;
* `Proceeds` — what follows once it is known whether the resource is there;
* `Course` — the whole pass.

Every stage may end early, so a list on the course is a prefix of a complete
one.  `course_of_branch` says that every branch of a pass is on its course.
-/

namespace DesiredState
namespace Pass

open Conversation

/-- A request is made first.  Nothing follows its failure, and what may follow
an answer depends on the answer. -/
inductive First (request : Request) (next : request.Answer → List Call → Prop) :
    List Call → Prop
  | failed (failure : Failure) : First request next [⟨request, .error failure⟩]
  | answered (answer : request.Answer) {calls : List Call} (rest : next answer calls) :
      First request next (⟨request, .ok answer⟩ :: calls)

/-- An update is sent first, if there is a body for one. -/
def Sends (key : Key) (body : Option Attributes) (next : List Call → Prop) :
    List Call → Prop :=
  match body with
  | some body => First (.update key body) fun _ => next
  | none => next

/-- The operation of a follow-up: its payload is all that is wanted. -/
def operationOf (pass : Pass) (want : Attributes) (followUp : FollowUp) : Operation :=
  ⟨followUp.job, pass.key, pass.kind.write want, followUp.mode⟩

/-- The follow-ups of the target that are due, in the order of declaration. -/
def due (pass : Pass) (observed : Condition) (wrote : Bool) : List FollowUp :=
  (pass.kind.followUpsOf pass.target).filter fun followUp =>
    followUp.isDue (pass.target.satisfiedBy observed) wrote

/-- Follow-ups are tracked in turn.  The next one starts only after the polls of
the one before it have ended well. -/
inductive InTurn (pass : Pass) (want : Attributes) : List FollowUp → List Call → Prop
  | finished : InTurn pass want [] []
  | last {followUp : FollowUp} {later : List FollowUp} {calls : List Call}
      {polls : Option (List Sighting)}
      (tracks : followUp.wait.Tracks (pass.operationOf want followUp) calls polls) :
      InTurn pass want (followUp :: later) calls
  | next {followUp : FollowUp} {later : List FollowUp} {calls rest : List Call}
      {sightings : List Sighting}
      (tracks : followUp.wait.Tracks (pass.operationOf want followUp) calls (some sightings))
      (ended : followUp.wait.EndsWell sightings) (inTurn : InTurn pass want later rest) :
      InTurn pass want (followUp :: later) (calls ++ rest)

/-- What may follow once it is known what the resource has: nothing, or at most
one update and then the follow-ups that are due. -/
inductive Converges (pass : Pass) (want raw : Attributes) : List Call → Prop
  | stopped : Converges pass want raw []
  | sent {changes : Attributes} {body : Option Attributes} {calls : List Call}
      (live : pass.checkOnly = false)
      (changed : pass.kind.changes want (pass.kind.read raw) = .ok changes)
      (body_eq : ∀ sent, body = some sent →
        sent = pass.updateBody want (pass.kind.read raw) changes)
      (rest : Sends pass.key body (pass.InTurn want
        (pass.due (pass.kind.observe (pass.kind.read raw) want) body.isSome)) calls) :
      Converges pass want raw calls

/-- What may follow once it is known whether the resource is there. -/
inductive Proceeds (pass : Pass) (want : Attributes) : Bool → List Call → Prop
  | stopped {found : Bool} (unneeded : found = true → pass.target = .absent) :
      Proceeds pass want found []
  | removed {calls : List Call} (target : pass.target = .absent)
      (live : pass.checkOnly = false)
      (rest : First (.delete pass.key)
        (fun _ => First (.lookUp pass.key) fun _ later => later = []) calls) :
      Proceeds pass want true calls
  /-- What is set after a creation is flags only. -/
  | created {creation : Attributes} {flags : Option Attributes} {calls : List Call}
      (target : pass.target ≠ .absent) (live : pass.checkOnly = false)
      (complete : pass.kind.creation want = .ok creation)
      (flags_only : ∀ sent, flags = some sent → ∃ pair, pass.kind.flags = some pair ∧
        pair.onCreate = false ∧ pair.forTarget pass.target = some sent)
      (rest : First (.create pass.key (pass.creationBody creation))
        (fun _ => Sends pass.key flags
          (pass.InTurn want (pass.due (pass.kind.observe creation want) true))) calls) :
      Proceeds pass want false calls
  | updated {calls : List Call} (target : pass.target ≠ .absent)
      (rest : First (.read pass.key) (fun raw => pass.Converges want raw) calls) :
      Proceeds pass want true calls

/-- The calls that a pass may make: none for parameters that are refused; the
look-up only where the resource does not always exist. -/
def Course (pass : Pass) (params : Attributes) (calls : List Call) : Prop :=
  match pass.kind.want pass.key.partition params pass.target with
  | .error _ => calls = []
  | .ok want =>
      if pass.kind.singleton then
        pass.Proceeds want true calls
      else
        First (.lookUp pass.key) (pass.Proceeds want) calls

variable {pass : Pass} {params want : Attributes} {calls : List Call}
  {result : Option (Except Setback Report)}

/-! ## Single steps -/

/-- A talk that has only a result left makes no more calls. -/
theorem branch_succeed {report : Report} (h : (succeed report).Branch calls result) :
    calls = [] ∧ result = some (.ok report) :=
  branch_done_iff.mp h

theorem branch_fail {changed : Bool} {fault : Fault}
    (h : (fail changed fault).Branch calls result) :
    calls = [] ∧ result = some (.error ⟨changed, fault⟩) :=
  branch_done_iff.mp h

/-- A required request is made; its failure ends the pass, and its answer is
what the pass goes on with. -/
theorem branch_require {changed : Bool} {request : Request} {next : request.Answer → Talk}
    (h : (require changed request next).Branch calls result) :
    (∃ failure, calls = [⟨request, .error failure⟩] ∧
        result = some (.error ⟨changed, failure.fault⟩)) ∨
      ∃ answer rest, calls = ⟨request, .ok answer⟩ :: rest ∧
        (next answer).Branch rest result := by
  obtain ⟨reply, rest, rfl, hrest⟩ := branch_ask_iff.mp h
  cases reply with
  | error failure =>
      obtain ⟨rfl, hresult⟩ := branch_fail hrest
      exact Or.inl ⟨failure, rfl, hresult⟩
  | ok answer => exact Or.inr ⟨answer, rest, rfl, hrest⟩

/-- A computed value is what the pass goes on with; a fault ends the pass. -/
theorem branch_obtain {α : Type} {computed : Except Fault α} {next : α → Talk}
    (h : (obtain computed next).Branch calls result) :
    (∃ fault, computed = .error fault ∧ calls = [] ∧ result = some (.error ⟨false, fault⟩)) ∨
      ∃ value, computed = .ok value ∧ (next value).Branch calls result := by
  cases computed with
  | error fault =>
      obtain ⟨hnil, hresult⟩ := branch_fail h
      exact Or.inl ⟨fault, rfl, hnil, hresult⟩
  | ok value => exact Or.inr ⟨value, rfl, h⟩

theorem first_of_require {changed : Bool} {request : Request} {next : request.Answer → Talk}
    {allowed : request.Answer → List Call → Prop}
    (h : (require changed request next).Branch calls result)
    (hnext : ∀ answer rest, (next answer).Branch rest result → allowed answer rest) :
    First request allowed calls := by
  rcases branch_require h with ⟨failure, rfl, -⟩ | ⟨answer, rest, rfl, hrest⟩
  · exact .failed failure
  · exact .answered answer (hnext answer rest hrest)

/-! ## Follow-ups -/

/-- The follow-ups that are due are tracked in turn. -/
theorem inTurn_of_runFollowUps {satisfied wrote : Bool} {followUps : List FollowUp}
    {report : Report}
    (h : (pass.runFollowUps want satisfied wrote followUps report).Branch calls result) :
    pass.InTurn want (followUps.filter fun followUp => followUp.isDue satisfied wrote)
      calls := by
  induction followUps generalizing report calls with
  | nil =>
      obtain ⟨rfl, -⟩ := branch_succeed h
      exact .finished
  | cons followUp later ih =>
      unfold runFollowUps at h
      split at h
      · rename_i hdue
        rw [List.filter_cons, if_pos hdue]
        rcases branch_bind h with ⟨earlier, ending, rest, rfl, htrack, hrest⟩ | ⟨htrack, -⟩
        · obtain ⟨polls, htracks, hended⟩ := Wait.branch_track htrack
          cases ending with
          | error fault =>
              obtain ⟨rfl, -⟩ := branch_fail hrest
              rw [List.append_nil]
              exact .last htracks
          | ok outcome =>
              obtain ⟨sightings, rfl, hwell⟩ := hended outcome rfl
              exact .next htracks hwell (ih hrest)
        · obtain ⟨polls, htracks, -⟩ := Wait.branch_track htrack
          exact .last htracks
      · rename_i hidle
        rw [List.filter_cons, if_neg hidle]
        exact ih h

theorem inTurn_of_followUp {observed : Condition} {wrote : Bool} {report : Report}
    (h : (pass.followUp want observed wrote report).Branch calls result) :
    pass.InTurn want (pass.due observed wrote) calls :=
  inTurn_of_runFollowUps h

/-! ## Stages -/

theorem proceeds_of_remove (htarget : pass.target = .absent)
    (h : pass.remove.Branch calls result) : pass.Proceeds want true calls := by
  unfold remove at h
  split at h
  · obtain ⟨rfl, -⟩ := branch_succeed h
    exact .stopped fun _ => htarget
  · rename_i hlive
    refine .removed htarget (Bool.eq_false_iff.mpr hlive) (first_of_require h ?_)
    intro _ rest hrest
    refine first_of_require hrest fun stillThere last hlast => ?_
    cases stillThere with
    | true => exact (branch_fail hlast).1
    | false => exact (branch_succeed hlast).1

/-- What is set after a creation is the flags that could not be sent along. -/
theorem flags_of_flagsAfterCreation {sent : Attributes}
    (h : pass.flagsAfterCreation = some sent) :
    ∃ pair, pass.kind.flags = some pair ∧ pair.onCreate = false ∧
      pair.forTarget pass.target = some sent := by
  unfold flagsAfterCreation at h
  split at h
  · rename_i pair hpair
    split at h
    · cases h
    · rename_i hafter
      exact ⟨pair, hpair, Bool.eq_false_iff.mpr hafter, h⟩
  · cases h

theorem proceeds_of_create (htarget : pass.target ≠ .absent)
    (h : (pass.create want).Branch calls result) : pass.Proceeds want false calls := by
  rcases branch_obtain h with ⟨fault, -, rfl, -⟩ | ⟨creation, hcreation, hrest⟩
  · exact .stopped nofun
  · dsimp only at hrest
    split at hrest
    · obtain ⟨rfl, -⟩ := branch_succeed hrest
      exact .stopped nofun
    · rename_i hlive
      refine .created htarget (Bool.eq_false_iff.mpr hlive) hcreation
        (fun sent hsent => flags_of_flagsAfterCreation hsent) (first_of_require hrest ?_)
      intro _ rest hrest
      cases hflags : pass.flagsAfterCreation with
      | none =>
          rw [hflags] at hrest
          exact inTurn_of_followUp hrest
      | some flags =>
          rw [hflags] at hrest
          exact first_of_require hrest fun _ _ hlater => inTurn_of_followUp hlater

theorem converges_of_converge {raw changes : Attributes}
    (hchanges : pass.kind.changes want (pass.kind.read raw) = .ok changes)
    (h : (pass.converge want (pass.kind.read raw) changes).Branch calls result) :
    pass.Converges want raw calls := by
  unfold converge at h
  dsimp only at h
  split at h
  · obtain ⟨rfl, -⟩ := branch_succeed h
    exact .stopped
  · split at h
    · obtain ⟨rfl, -⟩ := branch_succeed h
      exact .stopped
    · rename_i hlive
      have hlive := Bool.eq_false_iff.mpr hlive
      split at h
      · rename_i hwrites
        rw [hwrites] at h
        have hbody : ∀ sent, some (pass.updateBody want (pass.kind.read raw) changes) =
            some sent → sent = pass.updateBody want (pass.kind.read raw) changes :=
          fun sent hsent => (Option.some.inj hsent).symm
        exact .sent hlive hchanges hbody
          (first_of_require h fun _ _ hlater => inTurn_of_followUp hlater)
      · rename_i hsilent
        rw [Bool.eq_false_iff.mpr hsilent] at h
        have hbody : ∀ sent, none = some sent →
            sent = pass.updateBody want (pass.kind.read raw) changes := nofun
        exact .sent hlive hchanges hbody (inTurn_of_followUp h)

theorem proceeds_of_update (htarget : pass.target ≠ .absent)
    (h : (pass.update want).Branch calls result) : pass.Proceeds want true calls := by
  refine .updated htarget (first_of_require h fun raw rest hrest => ?_)
  rcases branch_obtain hrest with ⟨fault, -, rfl, -⟩ | ⟨changes, hchanges, hlater⟩
  · exact .stopped
  · exact converges_of_converge hchanges hlater

theorem proceeds_of_proceed {found : Bool} (h : (pass.proceed want found).Branch calls result) :
    pass.Proceeds want found calls := by
  unfold proceed at h
  split at h
  · rename_i htarget
    cases found with
    | true => exact proceeds_of_remove htarget h
    | false =>
        obtain ⟨rfl, -⟩ := branch_succeed h
        exact .stopped nofun
  · rename_i htarget
    cases found with
    | true => exact proceeds_of_update htarget h
    | false =>
        simp only [Bool.false_eq_true, if_false] at h
        split at h
        · obtain ⟨rfl, -⟩ := branch_fail h
          exact .stopped nofun
        · exact proceeds_of_create htarget h

/-! ## The whole pass -/

/-- Every branch of a pass is on its course. -/
theorem course_of_branch (h : (pass.reconcile params).Branch calls result) :
    pass.Course params calls := by
  unfold Course
  rcases branch_obtain h with ⟨fault, hfault, rfl, -⟩ | ⟨want, hwant, hrest⟩
  · rw [hfault]
  · rw [hwant]
    dsimp only at hrest ⊢
    split
    · rename_i hsingleton
      rw [if_pos hsingleton] at hrest
      exact proceeds_of_proceed hrest
    · rename_i hsingleton
      rw [if_neg hsingleton] at hrest
      exact first_of_require hrest fun _ _ hlater => proceeds_of_proceed hlater

/-! ## What is created -/

/-- A request that is made first is either the given one or made later. -/
theorem First.request_of_mem {request : Request} {next : request.Answer → List Call → Prop}
    (h : First request next calls) {call : Call} (hcall : call ∈ calls) :
    call.request = request ∨ ∃ answer rest, next answer rest ∧ call ∈ rest := by
  cases h with
  | failed failure =>
      rw [List.mem_singleton.mp hcall]
      exact Or.inl rfl
  | answered answer rest =>
      rcases List.mem_cons.mp hcall with rfl | hlater
      · exact Or.inl rfl
      · exact Or.inr ⟨answer, _, rest, hlater⟩

theorem InTurn.isAboutJob {followUps : List FollowUp} (h : pass.InTurn want followUps calls) :
    ∀ call ∈ calls, call.request.isAboutJob = true := by
  induction h with
  | finished => exact List.forall_mem_nil _
  | last tracks => exact tracks.isAboutJob
  | next tracks ended inTurn ih =>
      exact List.forall_mem_append.mpr ⟨tracks.isAboutJob, ih⟩

/-- Nothing is created by an update and the follow-ups after it. -/
theorem Sends.not_create {key : Key} {sent : Option Attributes} {followUps : List FollowUp}
    (h : Sends key sent (pass.InTurn want followUps) calls) {call : Call} (hcall : call ∈ calls)
    {created : Key} {body : Attributes} : call.request ≠ .create created body := by
  intro hcreate
  have hjob : ∀ {rest : List Call}, pass.InTurn want followUps rest → call ∉ rest := by
    intro rest hrest hmem
    have habout := hrest.isAboutJob call hmem
    rw [hcreate] at habout
    cases habout
  cases sent with
  | none => exact hjob h hcall
  | some update =>
      rcases First.request_of_mem h hcall with hupdate | ⟨-, rest, hrest, hlater⟩
      · cases hcreate.symm.trans hupdate
      · exact hjob hrest hlater

theorem Proceeds.creation_of_mem {found : Bool} (h : pass.Proceeds want found calls)
    {call : Call} (hcall : call ∈ calls) {key : Key} {body : Attributes}
    (hcreate : call.request = .create key body) :
    ∃ creation, pass.kind.creation want = .ok creation ∧ body = pass.creationBody creation := by
  cases h with
  | stopped unneeded => cases hcall
  | removed target live rest =>
      rcases rest.request_of_mem hcall with hdelete | ⟨-, later, hlater, hmem⟩
      · cases hcreate.symm.trans hdelete
      · rcases hlater.request_of_mem hmem with hlookUp | ⟨-, last, rfl, hlast⟩
        · cases hcreate.symm.trans hlookUp
        · cases hlast
  | created target live complete flags_only rest =>
      rcases rest.request_of_mem hcall with hsame | ⟨-, later, hlater, hmem⟩
      · obtain ⟨-, rfl⟩ := Request.create.inj (hcreate.symm.trans hsame)
        exact ⟨_, complete, rfl⟩
      · exact absurd hcreate (hlater.not_create hmem)
  | updated target rest =>
      rcases rest.request_of_mem hcall with hread | ⟨raw, later, hlater, hmem⟩
      · cases hcreate.symm.trans hread
      · cases hlater with
        | stopped => cases hmem
        | sent live changed body_eq rest => exact absurd hcreate (rest.not_create hmem)

/-- What is created is the body of the creation that the parameters come to. -/
theorem creation_of_course (h : pass.Course params calls) {call : Call} (hcall : call ∈ calls)
    {key : Key} {body : Attributes} (hcreate : call.request = .create key body) :
    ∃ want creation, pass.kind.want pass.key.partition params pass.target = .ok want ∧
      pass.kind.creation want = .ok creation ∧ body = pass.creationBody creation := by
  unfold Course at h
  split at h
  · rw [h] at hcall
    cases hcall
  · rename_i want hwant
    refine ⟨want, ?_⟩
    split at h
    · obtain ⟨creation, hcreation, rfl⟩ := h.creation_of_mem hcall hcreate
      exact ⟨creation, hwant, hcreation, rfl⟩
    · rcases h.request_of_mem hcall with hlookUp | ⟨found, rest, hrest, hmem⟩
      · cases hcreate.symm.trans hlookUp
      · obtain ⟨creation, hcreation, rfl⟩ := hrest.creation_of_mem hmem hcreate
        exact ⟨creation, hwant, hcreation, rfl⟩

/-- A creation that any device is asked for has the body of the creation that
the parameters come to. -/
theorem creation_of_request {σ : Type} {device : Device σ} {state : σ} {key : Key}
    {body : Attributes}
    (h : .create key body ∈ ((pass.reconcile params).run device state).requests) :
    ∃ want creation, pass.kind.want pass.key.partition params pass.target = .ok want ∧
      pass.kind.creation want = .ok creation ∧ body = pass.creationBody creation := by
  rw [Run.requests_eq] at h
  obtain ⟨call, hcall, hcreate⟩ := List.mem_map.mp h
  exact creation_of_course (course_of_branch (branch_run device _ state)) hcall hcreate

/-- Against every device, and however its replies depend on what was asked
before, the calls of a pass are on its course. -/
theorem calls_follow_course {σ : Type} (pass : Pass) (params : Attributes) (device : Device σ)
    (state : σ) : pass.Course params ((pass.reconcile params).run device state).calls :=
  course_of_branch (branch_run device (pass.reconcile params) state)

end Pass
end DesiredState
