import DesiredState.Proofs.Conversation.Midway
import DesiredState.Proofs.Pass.Jobs

/-!
# What follow-ups make of a snapshot

Against the offline device a prompt follow-up has one effect on the snapshot: at
its submission, or at its poll where it is only watched.  Before that the
snapshot is as it was, and after it nothing more happens.

What a follow-up leaves of the stored resource was described before, and how the
snapshot as a whole changes is added here: it stays as it is, or the resource is
stored anew under its key.  Where storing anew what is stored already makes no
difference, what follow-ups make of a snapshot is then told by what they leave
of the resource (`FollowUp.effectAll_of_keeps`).
-/

namespace DesiredState

namespace Snapshot

variable {snapshot : Snapshot} {key : String}

/-- Storing twice under a key is storing the second time only. -/
theorem place_place (key : String) (first second : Attributes)
    (resources : List (String × Attributes)) :
    place key second (place key first resources) = place key second resources := by
  induction resources with
  | nil => simp [place]
  | cons entry rest ih =>
      obtain ⟨known, old⟩ := entry
      by_cases heq : key = known
      · simp [place, heq]
      · by_cases hlt : key < known
        · simp [place, heq, hlt]
        · simp [place, heq, hlt, ih]

@[simp] theorem insert_insert (snapshot : Snapshot) (key : String)
    (first second : Attributes) :
    (snapshot.insert key first).insert key second = snapshot.insert key second :=
  congrArg Snapshot.mk (place_place key first second snapshot.resources)

/-- Storing anew what is stored under a key makes no difference. -/
def Keeps (snapshot : Snapshot) (key : String) : Prop :=
  ∀ stored, snapshot.get? key = some stored → snapshot.insert key stored = snapshot

/-- What was stored under a key can be stored anew. -/
theorem keeps_insert (snapshot : Snapshot) (key : String) (resource : Attributes) :
    (snapshot.insert key resource).Keeps key := by
  intro stored hstored
  rw [get?_insert_self] at hstored
  obtain rfl := Option.some.inj hstored
  exact insert_insert snapshot key resource resource

theorem modify_of_some {stored : Attributes} (h : snapshot.get? key = some stored)
    (change : Attributes → Attributes) :
    snapshot.modify key change = snapshot.insert key (change stored) := by
  rw [modify, h]

end Snapshot

open Device

/-! ## Waits -/

/-- Throughout a prompt wait the device is as before or as after its one poll. -/
theorem Wait.Prompt.throughout_await {wait : Wait} {shelf : Shelf} {id : String}
    (h : wait.Prompt) (operation : Operation) (hjob : operation.job ≠ .configReload)
    (hknown : shelf.knows id = true) (patience : Nat) {holds : Shelf → Prop}
    (hbefore : holds shelf)
    (hafter : holds { shelf with
      snapshot := (Shelf.observe shelf.snapshot operation.job id).2 }) :
    Conversation.Throughout offline (wait.await operation patience id) shelf holds := by
  have hfollow : Conversation.Throughout offline
      (wait.follow operation.label operation.job id patience {}) shelf holds := by
    cases patience with
    | zero =>
        unfold follow
        rw [UInt32.toNat_zero, h.started]
        exact Conversation.throughout_brokenOff hbefore
    | succ left =>
        have hpolled : offline.answer (.poll operation.job id) shelf =
            (.ok (Shelf.observe shelf.snapshot operation.job id).1,
              { shelf with snapshot := (Shelf.observe shelf.snapshot operation.job id).2 }) := by
          simp only [offline, Shelf.answer, hknown, if_true]
        unfold follow
        rw [UInt32.toNat_zero, h.started, if_neg Bool.false_ne_true]
        refine Conversation.throughout_sleep (Conversation.throughout_ask_iff.mpr ⟨hbefore, ?_⟩)
        rw [hpolled]
        dsimp only
        rw [h.absorb_eq hjob]
        exact Conversation.throughout_done hafter
  unfold await
  dsimp only
  split
  · exact hfollow
  · exact hfollow

namespace FollowUp

variable {followUp : FollowUp} {key : Key} {payload stored : Attributes} {snapshot : Snapshot}
  {shelf : Shelf} {patience : Nat}

/-- The resource is stored anew as a prompt follow-up leaves it, or it is left as it
is together with all else. -/
theorem Prompt.effect_eq (h : followUp.Prompt key.kind) (payload : Attributes)
    (hstored : snapshot.get? key.display = some stored) :
    followUp.effect key payload snapshot =
        snapshot.insert key.display (followUp.leaves payload stored) ∨
      followUp.effect key payload snapshot = snapshot ∧
        followUp.leaves payload stored = stored := by
  obtain ⟨job, mode, wait, trigger, report⟩ := followUp
  cases mode with
  | submit =>
      cases job with
      | applyPolicy | installSoftware => exact Or.inl (Snapshot.modify_of_some hstored _)
      | _ => exact Or.inr ⟨rfl, rfl⟩
  | watch =>
      by_cases hreboot : job = .awaitReboot
      · subst hreboot
        refine Or.inl ((Shelf.snapshot_observe_awaitReboot _ (h.bootable rfl)).trans ?_)
        exact Snapshot.modify_of_some hstored _
      · refine Or.inr ⟨Shelf.snapshot_observe hreboot key.path, ?_⟩
        cases job with
        | awaitReboot => exact absurd rfl hreboot
        | _ => rfl

/-- Throughout a prompt follow-up the snapshot is as before or as after its
effect. -/
theorem Prompt.throughout_track (h : followUp.Prompt key.kind) :
    Conversation.Throughout offline
      (followUp.wait.track patience (followUp.operation key payload)) shelf
      fun other => other.snapshot = shelf.snapshot ∨
        other.snapshot = followUp.effect key payload shelf.snapshot := by
  obtain ⟨job, mode, wait, trigger, report⟩ := followUp
  obtain ⟨hwait, hcompletes, hwatched, -⟩ := h
  cases mode with
  | submit =>
      refine Conversation.throughout_ask_iff.mpr ⟨Or.inl rfl, ?_⟩
      -- the effect was at the submission, and the poll adds nothing
      refine hwait.throughout_await ⟨job, key, payload, .submit⟩ hcompletes
        (shelf.knows_nextId job key payload) patience (Or.inr rfl) (Or.inr ?_)
      exact Shelf.snapshot_observe (hwatched rfl) _
  | watch =>
      exact hwait.throughout_await ⟨job, key, payload, .watch⟩ hcompletes
        (shelf.knows_path key) patience (Or.inl rfl) (Or.inr rfl)

/-! ## Follow-ups in turn -/

variable {satisfied wrote : Bool} {followUps : List FollowUp}

/-- What the follow-ups that are due make of a snapshot, one after the other. -/
def effectAll (satisfied wrote : Bool) (key : Key) (payload : Attributes)
    (followUps : List FollowUp) (snapshot : Snapshot) : Snapshot :=
  followUps.foldl
    (fun found followUp =>
      if followUp.isDue satisfied wrote then followUp.effect key payload found else found)
    snapshot

theorem effectAll_append (first second : List FollowUp) (snapshot : Snapshot) :
    effectAll satisfied wrote key payload (first ++ second) snapshot =
      effectAll satisfied wrote key payload second
        (effectAll satisfied wrote key payload first snapshot) :=
  List.foldl_append

/-- Where no follow-up is due, a snapshot is left as it is. -/
theorem effectAll_of_idle
    (h : ∀ followUp ∈ followUps, followUp.isDue satisfied wrote = false) :
    effectAll satisfied wrote key payload followUps snapshot = snapshot := by
  induction followUps with
  | nil => rfl
  | cons followUp rest ih =>
      obtain ⟨hfirst, hrest⟩ := List.forall_mem_cons.mp h
      rw [effectAll, List.foldl_cons, hfirst]
      exact ih hrest

/-- Prompt follow-ups leave all as it is, or store the resource anew; either way it
is stored as they leave it. -/
theorem get?_effectAll (h : ∀ followUp ∈ followUps, followUp.Prompt key.kind)
    (satisfied wrote : Bool) (payload : Attributes)
    (hstored : snapshot.get? key.display = some stored) :
    (effectAll satisfied wrote key payload followUps snapshot).get? key.display =
        some (leaveAll satisfied wrote payload followUps stored) ∧
      (effectAll satisfied wrote key payload followUps snapshot = snapshot ∨
        effectAll satisfied wrote key payload followUps snapshot = snapshot.insert key.display
          (leaveAll satisfied wrote payload followUps stored)) := by
  induction followUps generalizing snapshot stored with
  | nil => exact ⟨hstored, Or.inl rfl⟩
  | cons followUp rest ih =>
      obtain ⟨hfirst, hrest⟩ := List.forall_mem_cons.mp h
      rw [effectAll, leaveAll, List.foldl_cons, List.foldl_cons]
      cases followUp.isDue satisfied wrote with
      | false => exact ih hrest hstored
      | true =>
          rw [if_pos rfl, if_pos rfl]
          rcases hfirst.effect_eq payload hstored with heffect | ⟨heffect, hleft⟩
          · rw [heffect]
            obtain ⟨hget, hsnapshot⟩ := ih hrest (Snapshot.get?_insert_self snapshot key.display
              (followUp.leaves payload stored))
            refine ⟨hget, Or.inr ?_⟩
            rcases hsnapshot with hsame | hanew
            · -- nothing was stored after it, so what is found is what was stored
              rw [hsame, Snapshot.get?_insert_self] at hget
              exact hsame.trans (congrArg _ (Option.some.inj hget))
            · exact hanew.trans (Snapshot.insert_insert _ _ _ _)
          · rw [heffect, hleft]
            exact ih hrest hstored

/-- Where the resource can be stored anew, what prompt follow-ups make of a snapshot
is told by what they leave of the resource. -/
theorem effectAll_of_keeps (h : ∀ followUp ∈ followUps, followUp.Prompt key.kind)
    (hstored : snapshot.get? key.display = some stored) (hkeeps : snapshot.Keeps key.display) :
    effectAll satisfied wrote key payload followUps snapshot =
      snapshot.insert key.display (leaveAll satisfied wrote payload followUps stored) := by
  obtain ⟨hget, hsame | hanew⟩ := get?_effectAll h satisfied wrote payload hstored
  · rw [hsame, hstored] at hget
    rw [hsame, ← Option.some.inj hget]
    exact (hkeeps stored hstored).symm
  · exact hanew

end FollowUp
end DesiredState
