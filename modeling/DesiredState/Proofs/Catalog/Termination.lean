import DesiredState.Proofs.Catalog.Confinement
import DesiredState.Proofs.Pass.Patience
import DesiredState.Proofs.Pass.Termination
import DesiredState.Proofs.Pass.Verbatim

/-!
# Work orders that end

Against the offline device a work order takes a few requests, whatever is stored,
with one exception.  An archive that is to be installed is restored, and after that
its pass waits without a budget for the configuration daemon to show that the
configuration was loaded.  What the daemon shows is a resource of the snapshot, which
no pass changes.  Where it shows a reload that is still going on, the wait therefore
never ends (`AwaitsReload`), though every other job is found completed at its first
poll.

The patience of a run stands for no limit of its own: a run that ends is the same for
every patience from four polls on, and one that does not end makes more requests than
any patience has polls (`run_ends_unless_awaitsReload`).
-/

namespace DesiredState

open Device Conversation

namespace Catalog

/-! ## The follow-ups of the catalogue -/

section Table

variable {entry : Entry} {selector : Selector} {kind : ResourceKind}

/-- Four successes in a row are the most that a wait asks for. -/
theorem confirmations_le (entry : Entry) (target : Target) :
    ∀ followUp ∈ entry.followUps target, max 1 followUp.wait.confirmations ≤ 4 := by
  cases entry <;> cases target <;> decide

/-- Six requests are the most that follow-ups make. -/
theorem requests_followUps_le (entry : Entry) (target : Target) :
    FollowUp.requestsOf (entry.followUps target) ≤ 6 := by
  cases entry <;> cases target <;> decide

/-- Only archives that are to be installed wait for a reload. -/
theorem reloads_of_archive (entry : Entry) (target : Target) :
    ∀ followUp ∈ entry.followUps target, followUp.job = .configReload →
      entry = .archive ∧ target = .installed := by
  cases entry <;> cases target <;> decide

/-- No key of the catalogue begins as that of the daemon's status does. -/
theorem isPrefixOf_daemonStateKey (h : kindOf entry selector = .ok kind) :
    (kind.name ++ ":").toList.isPrefixOf daemonStateKey.toList = false := by
  refine forall_kindOf h ?_ (fun variety => ?_) ?_ ?_ (fun _ => ?_) ?_ ?_ ?_
  · decide
  · cases variety <;> decide
  · decide
  · decide
  · exact (by decide : ("asm/policies" ++ ":").toList.isPrefixOf daemonStateKey.toList = false)
  · decide
  · decide
  · decide

theorem daemonStateKey_ne (h : kindOf entry selector = .ok kind) {key : Key}
    (hname : key.kind = kind.name) : daemonStateKey ≠ key.display := by
  intro hsame
  have hprefix : (kind.name ++ ":").toList <+: daemonStateKey.toList := by
    have hsplit : (kind.name ++ ":" ++ key.path).toList =
        (kind.name ++ ":").toList ++ key.path.toList := String.toList_append
    rw [hsame, Key.display, hname, hsplit]
    exact List.prefix_append _ _
  rw [← List.isPrefixOf_iff_prefix, isPrefixOf_daemonStateKey h] at hprefix
  cases hprefix

/-- Nothing but a pending reload, and this only where an archive is to be installed, keeps
a pass of the catalogue waiting. -/
theorem unhindered_of_kindOf {pass : Pass} {shelf : Shelf}
    (hkind : kindOf entry selector = .ok pass.kind) (hname : pass.key.kind = pass.kind.name)
    (hpatience : 4 ≤ pass.patience)
    (hended : pass.checkOnly = false → entry = .archive → pass.target = .installed →
      (Shelf.reload shelf.snapshot).isTerminal = true) : pass.Unhindered shelf where
  confined := by
    rw [hname]
    exact confined_of_kindOf hkind pass.target
  patient := by
    rw [followUpsOf_of_kindOf hkind]
    intro followUp hmem
    exact Nat.le_trans (confirmations_le entry pass.target followUp hmem) hpatience
  countable := by
    rw [followUpsOf_of_kindOf hkind]
    intro followUp hmem
    have hfour := confirmations_le entry pass.target followUp hmem
    rw [UInt32.size]
    omega
  aside := daemonStateKey_ne hkind hname
  ended := by
    intro hlive followUp hmem hjob
    rw [followUpsOf_of_kindOf hkind] at hmem
    obtain ⟨hentry, htarget⟩ := reloads_of_archive entry pass.target followUp hmem hjob
    exact hended hlive hentry htarget

theorem followUpRequests_le {pass : Pass} (hkind : kindOf entry selector = .ok pass.kind) :
    pass.followUpRequests ≤ 6 := by
  rw [Pass.followUpRequests, followUpsOf_of_kindOf hkind]
  exact requests_followUps_le entry pass.target

end Table

/-! ## Archives that are to be installed -/

namespace Archive

/-- The pass that installs an archive. -/
def installation (key : Key) (patience : Nat) : Pass where
  kind := kind
  key := key
  target := .installed
  patience := patience

variable {key : Key} {patience : Nat} {shelf : Shelf} {want params : Attributes}

theorem restore_prompt : restore.Prompt kind.name where
  wait := ⟨rfl, Nat.le_refl 1⟩
  completes := by decide
  watched := by decide
  bootable := by decide

/-- While the daemon shows a reload that is still going on, the follow-ups do not end. -/
theorem outlasts_followUp (hname : key.kind = kind.name)
    (hpending : Shelf.reload shelf.snapshot = .pending) (wrote : Bool) (report : Report) :
    (((installation key patience).followUp want .presentEnabled wrote report).run
      offline shelf).Outlasts patience := by
  have hprompt : restore.Prompt key.kind := hname ▸ restore_prompt
  obtain ⟨outcome, stopped, after, hends, hsnapshot⟩ :=
    hprompt.ends_track (kind.write want) patience shelf
  change (((installation key patience).runFollowUps want false wrote [restore, reload]
    report).run offline shelf).Outlasts patience
  by_cases hpatience : patience = 0
  · -- not even the restore is polled
    subst hpatience
    refine Pass.outlasts_runFollowUps_of_first _ rfl ⟨?_, Nat.zero_le _⟩
    exact (Prod.mk.inj hends).1
  · rw [if_neg hpatience] at hends
    refine Pass.outlasts_runFollowUps_of_later rfl hends fun later => ?_
    refine Pass.outlasts_runFollowUps_of_first _ rfl (Wait.outlasts_track rfl rfl rfl ?_)
    rw [hsnapshot]
    exact hpending

/-- Nothing can be updated, so no archive needs a change. -/
theorem changes_eq (want held : Attributes) : kind.changes want held = .ok .empty := by
  obtain ⟨changes, hchanges, hempty⟩ := Schema.settled_iff_changes_isEmpty.mp
    (Schema.settled_of_nothing_updatable kind.schema want held)
  rw [Attributes.eq_empty_of_isEmpty hempty] at hchanges
  exact hchanges

theorem outlasts_create (hname : key.kind = kind.name)
    (hnone : shelf.snapshot.get? key.display = none)
    (hpending : Shelf.reload shelf.snapshot = .pending) :
    (((installation key patience).create want).run offline shelf).Outlasts (patience + 1) := by
  have hreply : ∀ body, Shelf.answer (.create key body) shelf =
      (.ok (), { shelf with snapshot := shelf.snapshot.insert key.display body }) := by
    intro body
    simp [Shelf.answer, hnone]
  refine Pass.outlasts_require (hreply _) (outlasts_followUp hname ?_ true _)
  have hkind : kindOf .archive {} = .ok kind := rfl
  rw [← hpending]
  exact Shelf.reload_eq_of_others (daemonStateKey_ne hkind hname) (Snapshot.others_insert _ _ _)

theorem outlasts_update (hname : key.kind = kind.name) {raw : Attributes}
    (hraw : shelf.snapshot.get? key.display = some raw)
    (hpending : Shelf.reload shelf.snapshot = .pending) :
    (((installation key patience).update want).run offline shelf).Outlasts (patience + 1) := by
  have hreply : Shelf.answer (.read key) shelf = (.ok raw, shelf) := by
    simp [Shelf.answer, hraw]
  refine Pass.outlasts_require hreply ?_
  change ((Pass.obtain (kind.changes want (kind.read raw)) _).run offline shelf).Outlasts patience
  rw [changes_eq]
  exact outlasts_followUp hname hpending _ _

/-- While the daemon shows a reload that is still going on, installing an archive does not
end. -/
theorem outlasts_reconcile (hname : key.kind = kind.name)
    (hwant : kind.want key.partition params .installed = .ok want)
    (hpending : Shelf.reload shelf.snapshot = .pending) :
    (((installation key patience).reconcile params).run offline shelf).Outlasts
      (patience + 2) := by
  change ((Pass.obtain (kind.want key.partition params .installed) _).run
    offline shelf).Outlasts (patience + 2)
  rw [hwant]
  have hreply : Shelf.answer (.lookUp key) shelf =
      (.ok (shelf.snapshot.get? key.display).isSome, shelf) := rfl
  refine Pass.outlasts_require hreply ?_
  cases hstored : shelf.snapshot.get? key.display with
  | some raw => exact outlasts_update hname hstored hpending
  | none => exact outlasts_create hname hstored hpending

end Archive

/-! ## Work orders -/

/-- A work order waits for a reload that never ends: an archive is to be installed, and
the configuration daemon shows that a reload is still going on. -/
structure AwaitsReload (order : WorkOrder) (shelf : Shelf) : Prop where
  archive : Entry.ofName order.entry = .ok .archive
  installs : order.target = .installed
  /-- The work order is no dry run. -/
  live : order.checkOnly = false
  /-- The archive is named. -/
  named : ∃ name, resourceName .archive order.name = .ok name
  /-- The parameters are valid. -/
  accepted : ∃ want, Archive.kind.want order.partition order.params .installed = .ok want
  /-- The reload has neither succeeded nor failed. -/
  pending : Shelf.reload shelf.snapshot = .pending

end Catalog

namespace Plan

open Catalog

variable {order : WorkOrder} {patience : Nat} {shelf : Shelf}

theorem outlasts_of_awaitsReload (h : AwaitsReload order shelf) (patience : Nat) :
    (run order patience shelf).Outlasts (patience + 2) := by
  obtain ⟨name, hname⟩ := h.named
  obtain ⟨want, hwant⟩ := h.accepted
  have hkey : keyOf .archive Archive.kind order.partition order.name =
      .ok ⟨Archive.kind.name, order.partition, name⟩ := by
    rw [keyOf, hname]
    rfl
  have hpass : passOf order patience =
      .ok (Archive.installation ⟨Archive.kind.name, order.partition, name⟩ patience) := by
    rw [passOf, h.archive, h.installs, h.live]
    change (keyOf .archive Archive.kind order.partition order.name).bind _ = _
    rw [hkey]
    rfl
  rw [run_of_passOf hpass]
  exact Archive.outlasts_reconcile rfl hwant h.pending

/-- A pass is kept waiting only if its work order awaits a reload. -/
theorem unhindered_of_not_awaitsReload (h : ¬AwaitsReload order shelf) {pass : Pass}
    (hpass : passOf order patience = .ok pass) (hpatience : 4 ≤ patience) {want : Attributes}
    (hwant : pass.kind.want pass.key.partition order.params pass.target = .ok want) :
    pass.Unhindered shelf := by
  have hsame := named_of_passOf hpass
  obtain ⟨entry, hentry, hrest⟩ := bind_eq_ok_iff.mp hpass
  obtain ⟨kind, hkind, hrest⟩ := bind_eq_ok_iff.mp hrest
  obtain ⟨key, hkey, hrest⟩ := bind_eq_ok_iff.mp hrest
  obtain ⟨name, hname, hkey⟩ := bind_eq_ok_iff.mp hkey
  obtain rfl := Except.ok.inj hkey
  obtain rfl := Except.ok.inj hrest
  refine unhindered_of_kindOf hkind hsame hpatience ?_
  rintro hlive rfl hinstalls
  obtain rfl := Except.ok.inj hkind
  cases hprogress : Shelf.reload shelf.snapshot with
  | completed => rfl
  | failed detail => rfl
  | pending =>
      -- nothing is missing then from what it takes to wait for ever
      have haccepted : ∃ want, Archive.kind.want order.partition order.params .installed =
          .ok want := ⟨want, hinstalls ▸ hwant⟩
      exact absurd ⟨hentry, hinstalls, hlive, ⟨name, hname⟩, haccepted, hprogress⟩ h

/-- A work order that awaits no reload ends after a few requests. -/
theorem endsWithin_of_not_awaitsReload (h : ¬AwaitsReload order shelf)
    (hpatience : 4 ≤ patience) : (run order patience shelf).EndsWithin 9 := by
  cases hpass : passOf order patience with
  | error fault =>
      unfold run talk
      rw [hpass]
      exact (endsWithin_done _).mono (Nat.zero_le _)
  | ok pass =>
      rw [run_of_passOf hpass]
      obtain ⟨entry, -, hkind, -⟩ := passOf_eq_ok hpass
      cases hwant : pass.kind.want pass.key.partition order.params pass.target with
      | error fault =>
          rw [Pass.reconcile, hwant]
          exact (endsWithin_done _).mono (Nat.zero_le _)
      | ok want =>
          have hunhindered := unhindered_of_not_awaitsReload h hpass hpatience hwant
          refine (hunhindered.endsWithin_reconcile order.params).mono ?_
          exact Nat.add_le_add_right (followUpRequests_le hkind) 3

/-- A work order against the offline device ends, unless it awaits a reload.  The run that
ends has few requests, and it is the same for every patience from four polls on; the one
that does not end has more requests than the patience, whatever this is. -/
theorem run_ends_unless_awaitsReload (order : WorkOrder) (shelf : Shelf) :
    (¬AwaitsReload order shelf ∧ ∃ final : Run Shelf (Except Setback Report),
      final.EndsWithin 9 ∧ ∀ patience, 4 ≤ patience → run order patience shelf = final) ∨
    (AwaitsReload order shelf ∧
      ∀ patience, (run order patience shelf).Outlasts (patience + 1)) := by
  by_cases h : AwaitsReload order shelf
  · refine Or.inr ⟨h, fun patience => ?_⟩
    obtain ⟨hresult, hrequests⟩ := outlasts_of_awaitsReload h patience
    exact ⟨hresult, Nat.le_of_succ_le hrequests⟩
  · have hends := endsWithin_of_not_awaitsReload h (Nat.le_refl 4)
    obtain ⟨result, hresult⟩ := hends.result
    exact Or.inl ⟨h, _, hends, fun patience hpatience => run_eq_of_le hpatience hresult⟩

/-- A device whose configuration daemon is still starting. -/
def startingShelf : Shelf :=
  ⟨⟨[(daemonStateKey, ⟨[("output", .text "Running Phase starting")]⟩)]⟩, []⟩

/-- Asks for an archive to be installed. -/
def restoration : WorkOrder where
  entry := Entry.archive.name
  name := some "backup.ucs"
  target := .installed

/-- Where no status is shown, the archive is created and restored, and the reload is
confirmed four times. -/
example : (run restoration 4 ⟨⟨[]⟩, []⟩).requests.length = 8 := by decide +kernel

theorem restoration_awaitsReload : AwaitsReload restoration startingShelf where
  archive := rfl
  installs := rfl
  live := rfl
  named := ⟨_, rfl⟩
  accepted := ⟨_, rfl⟩
  pending := by decide

/-- No patience sees the end of it. -/
theorem restoration_never_ends :
    ¬∃ patience result, (run restoration patience startingShelf).result = some result := by
  rintro ⟨patience, result, hresult⟩
  rw [(outlasts_of_awaitsReload restoration_awaitsReload patience).result] at hresult
  cases hresult

end Plan
end DesiredState
