import DesiredState.Proofs.Conversation.Midway
import DesiredState.Proofs.Pass.Course
import DesiredState.Proofs.Pass.Jobs
import DesiredState.Proofs.Snapshot

/-!
# Passes that touch nothing else

A pass is about one resource, and asks nothing of a device that is about
another one.

* `Request.Confined` — a request that is about the resource of a key, or polls
  without an effect on any other;
* `ResourceKind.Confined` — a kind whose follow-ups make only such requests;
* `confined_of_request` — every request of a pass on such a kind is confined,
  whatever the device replies;
* `others_run` — against the offline device such a pass leaves every other
  resource as it is, also where it fails or is broken off.

The resources stay in the order of their keys whatever is asked
(`Shelf.ordered_after`).

The one poll that has an effect is that for a reboot: it makes a volume active,
and finds the volume by the id that is polled.  So a reboot must be watched, by
the path of a volume.
-/

namespace DesiredState

open Device

/-! ## Confined requests -/

/-- A request that is about the resource of a key.  A poll tells no key; the one for a
reboot is about the volume at the path that is polled. -/
def Request.Confined (key : Key) : Request → Prop
  | .lookUp other | .read other | .create other _ | .update other _ | .delete other
  | .submit _ other _ => other = key
  | .poll job id => job = .awaitReboot → key.kind = Catalog.Volume.kindName ∧ id = key.path

namespace Device
namespace Shelf

variable {key : Key} {request : Request}

/-- A confined request leaves the other resources as they are. -/
theorem others_answer (h : request.Confined key) (shelf : Shelf) :
    (answer request shelf).2.snapshot.others key.display =
      shelf.snapshot.others key.display := by
  cases request with
  | lookUp other => rfl
  | read other =>
      simp only [answer]
      split
      · rfl
      · rfl
  | create other body =>
      obtain rfl : other = key := h
      simp only [answer]
      split
      · rfl
      · exact Snapshot.others_insert _ _ _
  | update other body =>
      obtain rfl : other = key := h
      simp only [answer]
      split
      · exact Snapshot.others_insert _ _ _
      · rfl
  | delete other =>
      obtain rfl : other = key := h
      simp only [answer]
      split
      · exact Snapshot.others_erase _ _
      · rfl
  | submit job other payload =>
      obtain rfl : other = key := h
      cases job with
      | applyPolicy | installSoftware => exact Snapshot.others_modify _ _ _
      | _ => rfl
  | poll job id =>
      simp only [answer]
      split
      · by_cases hjob : job = .awaitReboot
        · obtain ⟨hkind, rfl⟩ := h hjob
          subst hjob
          dsimp only
          rw [snapshot_observe_awaitReboot _ hkind]
          exact Snapshot.others_modify _ _ _
        · dsimp only
          rw [snapshot_observe hjob]
      · rfl

/-- Confined requests, one after the other, leave the other resources as they are. -/
theorem others_after {requests : List Request} (h : ∀ request ∈ requests, request.Confined key)
    (shelf : Shelf) :
    (offline.after requests shelf).snapshot.others key.display =
      shelf.snapshot.others key.display := by
  induction requests generalizing shelf with
  | nil => rfl
  | cons request rest ih =>
      obtain ⟨hfirst, hrest⟩ := List.forall_mem_cons.mp h
      exact (ih hrest _).trans (others_answer hfirst shelf)

/-- Every request leaves the resources in the order of their keys. -/
theorem ordered_answer {shelf : Shelf} (h : shelf.snapshot.Ordered) (request : Request) :
    (answer request shelf).2.snapshot.Ordered := by
  cases request with
  | lookUp other => exact h
  | read other =>
      simp only [answer]
      split
      · exact h
      · exact h
  | create other body =>
      simp only [answer]
      split
      · exact h
      · exact h.insert _ _
  | update other body =>
      simp only [answer]
      split
      · exact h.insert _ _
      · exact h
  | delete other =>
      simp only [answer]
      split
      · exact h.erase _
      · exact h
  | submit job other payload =>
      cases job with
      | applyPolicy | installSoftware => exact h.modify _ _
      | _ => exact h
  | poll job id =>
      simp only [answer]
      split
      · by_cases hjob : job = .awaitReboot
        · subst hjob
          exact h.modify _ _
        · dsimp only
          rwa [snapshot_observe hjob]
      · exact h

theorem ordered_after {shelf : Shelf} (h : shelf.snapshot.Ordered) (requests : List Request) :
    (offline.after requests shelf).snapshot.Ordered := by
  induction requests generalizing shelf with
  | nil => exact h
  | cons request rest ih => exact ih (ordered_answer h request)

end Shelf
end Device

/-! ## Confined follow-ups -/

/-- A follow-up whose requests are confined to the resource that it follows: a reboot is
only watched, and only volumes are rebooted into. -/
def FollowUp.Confined (followUp : FollowUp) (kindName : String) : Prop :=
  followUp.job = .awaitReboot →
    followUp.mode = .watch ∧ kindName = Catalog.Volume.kindName

/-- A kind of resources whose follow-ups are confined to the resource. -/
def ResourceKind.Confined (kind : ResourceKind) : Prop :=
  ∀ target, ∀ followUp ∈ kind.followUpsOf target, followUp.Confined kind.name

namespace Pass

variable {pass : Pass} {params want : Attributes} {calls : List Call}

/-- The polls of a follow-up are confined: those for a reboot are made by the path. -/
theorem confined_of_opens {followUp : FollowUp} {opening : List Call} {id : String}
    (hconfined : followUp.Confined pass.key.kind)
    (hopens : followUp.wait.Opens (pass.operationOf want followUp) opening (some id)) :
    (Request.poll followUp.job id).Confined pass.key := by
  intro hjob
  obtain ⟨hwatched, hkind⟩ := hconfined hjob
  cases hopens with
  | watched mode => exact ⟨hkind, rfl⟩
  | submitted mode | assumed mode => cases hwatched.symm.trans mode

theorem confined_of_tracks {followUp : FollowUp} {polls : Option (List Sighting)}
    (hconfined : followUp.Confined pass.key.kind)
    (h : followUp.wait.Tracks (pass.operationOf want followUp) calls polls) :
    ∀ call ∈ calls, call.request.Confined pass.key := by
  -- whatever an operation is opened with is about its key
  have hopening : ∀ {opening : List Call} {id : Option String},
      followUp.wait.Opens (pass.operationOf want followUp) opening id →
        ∀ call ∈ opening, call.request.Confined pass.key := by
    intro opening id hopens
    cases hopens with
    | watched => exact List.forall_mem_nil _
    | submitted | assumed | refused => exact List.forall_mem_singleton.mpr rfl
  cases h with
  | polls opens borne =>
      refine List.forall_mem_append.mpr ⟨hopening opens, fun call hpolled => ?_⟩
      obtain ⟨sighting, -, rfl⟩ := List.mem_map.mp hpolled
      exact confined_of_opens hconfined opens
  | refused opens => exact hopening opens

theorem InTurn.confined {followUps : List FollowUp} (h : pass.InTurn want followUps calls)
    (hconfined : ∀ followUp ∈ followUps, followUp.Confined pass.key.kind) :
    ∀ call ∈ calls, call.request.Confined pass.key := by
  induction h with
  | finished => exact List.forall_mem_nil _
  | last tracks => exact confined_of_tracks (hconfined _ List.mem_cons_self) tracks
  | next tracks ended inTurn ih =>
      obtain ⟨hfirst, hlater⟩ := List.forall_mem_cons.mp hconfined
      exact List.forall_mem_append.mpr ⟨confined_of_tracks hfirst tracks, ih hlater⟩

/-! ## Confined passes -/

/-- A request that is made first is confined together with what may follow it. -/
theorem First.confined {key : Key} {request : Request}
    {next : request.Answer → List Call → Prop} (h : First request next calls)
    (hrequest : request.Confined key)
    (hnext : ∀ answer rest, next answer rest → ∀ call ∈ rest, call.request.Confined key) :
    ∀ call ∈ calls, call.request.Confined key := by
  intro call hcall
  rcases h.request_of_mem hcall with heq | ⟨answer, rest, hrest, hlater⟩
  · rw [heq]
    exact hrequest
  · exact hnext answer rest hrest call hlater

theorem Sends.confined {body : Option Attributes} {next : List Call → Prop}
    (h : Sends pass.key body next calls)
    (hnext : ∀ rest, next rest → ∀ call ∈ rest, call.request.Confined pass.key) :
    ∀ call ∈ calls, call.request.Confined pass.key := by
  cases body with
  | none => exact hnext calls h
  | some sent => exact First.confined h rfl fun _ => hnext

theorem due_confined (hkind : pass.kind.Confined) (hname : pass.key.kind = pass.kind.name)
    (observed : Condition) (wrote : Bool) :
    ∀ followUp ∈ pass.due observed wrote, followUp.Confined pass.key.kind := by
  intro followUp hdue
  rw [hname]
  exact hkind pass.target followUp (List.mem_filter.mp hdue).1

theorem Proceeds.confined (hkind : pass.kind.Confined) (hname : pass.key.kind = pass.kind.name)
    {found : Bool} (h : pass.Proceeds want found calls) :
    ∀ call ∈ calls, call.request.Confined pass.key := by
  have hinTurn : ∀ observed wrote, ∀ rest, pass.InTurn want (pass.due observed wrote) rest →
      ∀ call ∈ rest, call.request.Confined pass.key := fun observed wrote rest hrest =>
    hrest.confined (due_confined hkind hname observed wrote)
  cases h with
  | stopped unneeded => exact List.forall_mem_nil _
  | removed target live rest =>
      refine rest.confined rfl fun _ _ hgone => hgone.confined rfl ?_
      rintro _ _ rfl
      exact List.forall_mem_nil _
  | created target live complete flags_only rest =>
      exact rest.confined rfl fun _ _ hsends => hsends.confined (hinTurn _ _)
  | updated target rest =>
      refine rest.confined rfl fun raw later hconverges => ?_
      cases hconverges with
      | stopped => exact List.forall_mem_nil _
      | sent live changed body_eq rest => exact rest.confined (hinTurn _ _)

/-- Every request of a pass is confined, whatever the device replies. -/
theorem confined_of_request {σ : Type} {device : Device σ} {state : σ}
    (hkind : pass.kind.Confined) (hname : pass.key.kind = pass.kind.name) :
    ∀ request ∈ ((pass.reconcile params).run device state).requests,
      request.Confined pass.key := by
  have hcourse := course_of_branch
    (Conversation.branch_run device (pass.reconcile params) state)
  have hcalls : ∀ call ∈ ((pass.reconcile params).run device state).calls,
      call.request.Confined pass.key := by
    unfold Course at hcourse
    split at hcourse
    · rw [hcourse]
      exact List.forall_mem_nil _
    · split at hcourse
      · exact hcourse.confined hkind hname
      · exact hcourse.confined rfl fun _ _ hproceeds => hproceeds.confined hkind hname
  rw [Run.requests_eq]
  exact List.forall_mem_map.mpr hcalls

/-- Against the offline device a pass leaves every other resource as it is. -/
theorem others_run (hkind : pass.kind.Confined) (hname : pass.key.kind = pass.kind.name)
    (shelf : Shelf) :
    ((pass.reconcile params).run offline shelf).state.snapshot.others pass.key.display =
      shelf.snapshot.others pass.key.display := by
  rw [Conversation.state_run]
  exact Shelf.others_after (confined_of_request hkind hname) shelf

end Pass
end DesiredState
