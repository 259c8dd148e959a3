import DesiredState.Plan
import DesiredState.Proofs.Schema.Change

/-!
# Passes against the offline device

How a pass that takes no job ends against the offline device, request by
request, and what it leaves under the key of its resource.  From this follows
when a second pass has nothing to do: exactly when the resource as the first
pass left it is at rest.
-/

namespace DesiredState

/-- A kind whose passes send all that they have to send at once. -/
structure ResourceKind.Immediate (kind : ResourceKind) : Prop where
  /-- No jobs are taken. -/
  jobless : ∀ target, kind.followUpsOf target = []
  /-- Flags may be sent with a creation. -/
  flagged : ∀ flags, kind.flags = some flags → flags.onCreate = true
  /-- Nothing is written for no changes. -/
  writesNothing : kind.write .empty = .empty
  /-- What always exists cannot be removed. -/
  kept : kind.singleton = true → kind.supports .absent = false

namespace Run

variable {σ α : Type}

/-- How a run ends: with a result, and with a state of the device. -/
def ends (run : Run σ α) : Option α × σ :=
  (run.result, run.state)

@[simp] theorem ends_after (event : Event) (run : Run σ α) :
    (run.after event).ends = run.ends :=
  rfl

end Run

namespace Snapshot

@[simp] theorem get?_insert_self (snapshot : Snapshot) (key : String)
    (resource : Attributes) : (snapshot.insert key resource).get? key = some resource :=
  lookup_place_self key resource snapshot.resources

end Snapshot

namespace Pass

open Device

variable {changed : Bool} {key : Key} {shelf : Shelf}

/-! ## Requests -/

@[simp] theorem ends_succeed (report : Report) :
    ((succeed report).run offline shelf).ends = (some (.ok report), shelf) :=
  rfl

theorem ends_lookUp (next : Bool → Talk) :
    ((require changed (.lookUp key) next).run offline shelf).ends =
      ((next (shelf.snapshot.get? key.display).isSome).run offline shelf).ends :=
  rfl

theorem ends_read_of_some (next : Attributes → Talk) {raw : Attributes}
    (hraw : shelf.snapshot.get? key.display = some raw) :
    ((require changed (.read key) next).run offline shelf).ends =
      ((next raw).run offline shelf).ends := by
  simp [require, Conversation.run, offline, Shelf.answer, hraw]

theorem ends_read_of_none (next : Attributes → Talk)
    (hnone : shelf.snapshot.get? key.display = none) :
    ((require changed (.read key) next).run offline shelf).ends =
      (some (.error ⟨changed, (notFound key.display).fault⟩), shelf) := by
  simp [require, Conversation.run, offline, Shelf.answer, hnone]
  rfl

theorem ends_create_of_none (next : Unit → Talk) (body : Attributes)
    (hnone : shelf.snapshot.get? key.display = none) :
    ((require changed (.create key body) next).run offline shelf).ends =
      ((next ()).run offline
        { shelf with snapshot := shelf.snapshot.insert key.display body }).ends := by
  simp [require, Conversation.run, offline, Shelf.answer, hnone]

theorem ends_update_of_some (next : Unit → Talk) (body : Attributes) {raw : Attributes}
    (hraw : shelf.snapshot.get? key.display = some raw) :
    ((require changed (.update key body) next).run offline shelf).ends =
      ((next ()).run offline { shelf with
        snapshot := shelf.snapshot.insert key.display (raw.update body) }).ends := by
  simp [require, Conversation.run, offline, Shelf.answer, hraw]

theorem ends_delete_of_some (next : Unit → Talk) {raw : Attributes}
    (hraw : shelf.snapshot.get? key.display = some raw) :
    ((require changed (.delete key) next).run offline shelf).ends =
      ((next ()).run offline
        { shelf with snapshot := shelf.snapshot.erase key.display }).ends := by
  simp [require, Conversation.run, offline, Shelf.answer, hraw]

theorem ends_delete_of_none (next : Unit → Talk)
    (hnone : shelf.snapshot.get? key.display = none) :
    ((require changed (.delete key) next).run offline shelf).ends =
      (some (.error ⟨changed, (notFound key.display).fault⟩), shelf) := by
  simp [require, Conversation.run, offline, Shelf.answer, hnone]
  rfl

/-! ## Passes that take no job -/

/-- A pass that is carried out, takes no job and sets its flags, if it has any,
together with what it writes. -/
structure Direct (pass : Pass) : Prop where
  /-- The pass is no dry run. -/
  live : pass.checkOnly = false
  /-- No job follows. -/
  jobless : pass.kind.followUpsOf pass.target = []
  /-- No flags are left to be set after a creation. -/
  flagged : pass.flagsAfterCreation = none
  /-- Nothing is written for no changes. -/
  writesNothing : pass.kind.write .empty = .empty

variable {pass : Pass} {params want raw : Attributes}

/-- The body of the update that a pass sends for some changes. -/
def updateBody (pass : Pass) (want held changes : Attributes) : Attributes :=
  (pass.kind.write changes).update
    ((pass.flagsOfUpdate (pass.kind.observe held want)).getD .empty)

/-- A stored resource is at rest: nothing differs from what is wanted, and the
flags satisfy the target. -/
structure Rests (pass : Pass) (want raw : Attributes) : Prop where
  /-- Nothing is left to change. -/
  settled : pass.kind.schema.Settled pass.kind.updatable pass.kind.dependencies want
    (pass.kind.read raw)
  /-- No flag is left to set. -/
  flagged : pass.flagsOfUpdate (pass.kind.observe (pass.kind.read raw) want) = none

/-- A pass that is no dry run is direct when its kind is. -/
theorem direct_of_kind {kind : ResourceKind} (hkind : pass.kind = kind)
    (himmediate : kind.Immediate) (hlive : pass.checkOnly = false) : pass.Direct where
  live := hlive
  jobless := by rw [hkind, himmediate.jobless]
  flagged := by
    rw [flagsAfterCreation, hkind]
    cases hpair : kind.flags with
    | none => rfl
    | some flags => exact if_pos (himmediate.flagged flags hpair)
  writesNothing := by rw [hkind, himmediate.writesNothing]

/-- Without flags a resource is at rest when nothing is left to change. -/
theorem rests_iff_settled {kind : ResourceKind} (hkind : pass.kind = kind)
    (hflags : kind.flags = none) (stored : Attributes) :
    pass.Rests want stored ↔ kind.schema.Settled kind.updatable kind.dependencies want
      (kind.read stored) := by
  subst hkind
  refine ⟨Rests.settled, fun h => ⟨h, ?_⟩⟩
  rw [flagsOfUpdate, hflags]

theorem Direct.followUp_eq (h : pass.Direct) (observed : Condition) (wrote : Bool)
    (report : Report) : pass.followUp want observed wrote report = succeed report := by
  simp [followUp, h.jobless, runFollowUps]

theorem Direct.followUpsDue_eq (h : pass.Direct) (observed : Condition) :
    pass.followUpsDue observed = false := by
  simp [followUpsDue, h.jobless]

/-- What a pass goes on with that takes no job: it sends one update, unless nothing
differs and the flags are set. -/
theorem Direct.converge_eq (h : pass.Direct) (held changes : Attributes) :
    pass.converge want held changes =
      if changes.isEmpty ∧ pass.flagsOfUpdate (pass.kind.observe held want) = none then
        succeed ⟨false, Report.attributesOf want pass.kind.reportable changes⟩
      else
        require false (.update pass.key (pass.updateBody want held changes)) fun _ =>
          succeed ⟨true, Report.attributesOf want pass.kind.reportable changes⟩ := by
  unfold converge updateBody
  simp only [h.followUpsDue_eq, h.live, h.followUp_eq]
  -- flags are sent even where no attribute differs
  cases hflags : pass.flagsOfUpdate (pass.kind.observe held want) with
  | none =>
      cases hempty : changes.isEmpty with
      | true => simp
      | false =>
          simp only [Option.isSome_none, Bool.not_false, Bool.or_false, Bool.not_true,
            Bool.false_and, Bool.false_eq_true, if_false, if_true, false_and]
  | some flags =>
      simp only [Option.isSome_some, Bool.or_true, Bool.not_true, Bool.false_and,
        Bool.false_eq_true, if_false, if_true, reduceCtorEq, and_false]

/-- What a pass creates with that takes no job: it sends the creation. -/
theorem Direct.create_eq (h : pass.Direct) {creation : Attributes}
    (hcreation : pass.kind.creation want = .ok creation) :
    pass.create want =
      require false (.create pass.key (pass.creationBody creation)) fun _ =>
        succeed ⟨true, Report.attributesOf want pass.kind.reportable creation⟩ := by
  simp only [create, hcreation, obtain, h.live, Bool.false_eq_true, if_false, h.flagged,
    h.followUp_eq]

/-- A pass over a resource that is there writes what differs, if anything. -/
theorem Direct.ends_converge (h : pass.Direct) {held changes : Attributes}
    (hraw : shelf.snapshot.get? pass.key.display = some raw) :
    ((pass.converge want held changes).run offline shelf).ends =
      if changes.isEmpty ∧ pass.flagsOfUpdate (pass.kind.observe held want) = none then
        (some (.ok ⟨false, Report.attributesOf want pass.kind.reportable changes⟩), shelf)
      else
        (some (.ok ⟨true, Report.attributesOf want pass.kind.reportable changes⟩),
          { shelf with
            snapshot := shelf.snapshot.insert pass.key.display
              (raw.update (pass.updateBody want held changes)) }) := by
  rw [h.converge_eq]
  split
  · rfl
  · rw [ends_update_of_some _ _ hraw, ends_succeed]

/-! ## Quiet runs -/

/-- A run that succeeds, reports no change and leaves the snapshot as it was. -/
def Quiet (run : Run Shelf (Except Setback Report)) (before : Snapshot) : Prop :=
  ∃ report, run.result = some (.ok report) ∧ report.changed = false ∧
    run.state.snapshot = before

/-- Whether a run succeeds. -/
def succeeds (run : Run Shelf (Except Setback Report)) : Bool :=
  match run.result with
  | some (.ok _) => true
  | _ => false

/-- Whether a run succeeds without a change to report. -/
def idle (run : Run Shelf (Except Setback Report)) : Bool :=
  match run.result with
  | some (.ok report) => !report.changed
  | _ => false

theorem exists_report_of_succeeds {run : Run Shelf (Except Setback Report)}
    (h : succeeds run = true) : ∃ report, run.result = some (.ok report) := by
  unfold succeeds at h
  split at h
  · rename_i report hresult
    exact ⟨report, hresult⟩
  · cases h

theorem idle_of_quiet {run : Run Shelf (Except Setback Report)} {before : Snapshot}
    (h : Quiet run before) : idle run = true := by
  obtain ⟨report, hresult, hunchanged, -⟩ := h
  simp [idle, hresult, hunchanged]

theorem quiet_iff_of_ends {run : Run Shelf (Except Setback Report)} {before : Snapshot}
    {result : Option (Except Setback Report)} {state : Shelf}
    (hends : run.ends = (result, state)) :
    Quiet run before ↔
      ∃ report, result = some (.ok report) ∧ report.changed = false ∧
        state.snapshot = before := by
  obtain ⟨rfl, rfl⟩ := Prod.mk.inj hends
  rfl

/-- A pass over a resource that is there, toward a target that keeps it,
updates the resource. -/
theorem ends_reconcile_of_some
    (hwant : pass.kind.want pass.key.partition params pass.target = .ok want)
    (htarget : pass.target ≠ .absent)
    (hraw : shelf.snapshot.get? pass.key.display = some raw) :
    ((pass.reconcile params).run offline shelf).ends =
      ((obtain (pass.kind.changes want (pass.kind.read raw)) fun changes =>
        pass.converge want (pass.kind.read raw) changes).run offline shelf).ends := by
  have hproceed : ((pass.proceed want true).run offline shelf).ends =
      ((obtain (pass.kind.changes want (pass.kind.read raw)) fun changes =>
        pass.converge want (pass.kind.read raw) changes).run offline shelf).ends := by
    unfold proceed
    rw [if_neg htarget, if_pos rfl, update, ends_read_of_some _ hraw]
  unfold reconcile
  rw [hwant]
  simp only [obtain] at hproceed ⊢
  split
  · exact hproceed
  · rw [ends_lookUp, hraw]
    exact hproceed

/-- A pass over a resource that is there is quiet exactly when the resource is
at rest. -/
theorem Direct.quiet_iff_rests (h : pass.Direct)
    (hwant : pass.kind.want pass.key.partition params pass.target = .ok want)
    (htarget : pass.target ≠ .absent)
    (hraw : shelf.snapshot.get? pass.key.display = some raw) :
    Quiet ((pass.reconcile params).run offline shelf) shelf.snapshot ↔
      pass.Rests want raw := by
  have hends := ends_reconcile_of_some hwant htarget hraw
  cases hchanges : pass.kind.changes want (pass.kind.read raw) with
  | error fault =>
      rw [hchanges] at hends
      -- a change set that is refused fails the pass, and nothing at rest refuses one
      rw [quiet_iff_of_ends hends]
      constructor
      · rintro ⟨report, hresult, -⟩
        cases hresult
      · intro hrests
        obtain ⟨changes, hok, -⟩ := Schema.settled_iff_changes_isEmpty.mp hrests.settled
        exact absurd (hok.symm.trans hchanges) (by simp)
  | ok changes =>
      rw [hchanges] at hends
      simp only [obtain] at hends
      -- `converge` tells by the same two conditions whether it writes
      rw [h.ends_converge hraw] at hends
      have hsettled : pass.kind.schema.Settled pass.kind.updatable pass.kind.dependencies
          want (pass.kind.read raw) ↔ changes.isEmpty = true := by
        rw [Schema.settled_iff_changes_isEmpty]
        constructor
        · rintro ⟨others, hothers, hempty⟩
          obtain rfl : others = changes := Except.ok.inj (hothers.symm.trans hchanges)
          exact hempty
        · intro hempty
          exact ⟨changes, hchanges, hempty⟩
      split at hends
      · rename_i hidle
        rw [quiet_iff_of_ends hends]
        constructor
        · intro _
          exact ⟨hsettled.mpr hidle.1, hidle.2⟩
        · intro _
          exact ⟨_, rfl, rfl, rfl⟩
      · rename_i hbusy
        rw [quiet_iff_of_ends hends]
        constructor
        · rintro ⟨report, hresult, hunchanged, -⟩
          obtain rfl := Except.ok.inj (Option.some.inj hresult)
          cases hunchanged
        · intro hrests
          exact absurd ⟨hsettled.mp hrests.settled, hrests.flagged⟩ hbusy

/-- A pass toward absence removes the resource unless it finds none. -/
theorem ends_reconcile_of_absent (shelf : Shelf)
    (hwant : pass.kind.want pass.key.partition params pass.target = .ok want)
    (htarget : pass.target = .absent) :
    ((pass.reconcile params).run offline shelf).ends =
      if pass.kind.singleton = false ∧ shelf.snapshot.get? pass.key.display = none then
        (some (.ok ⟨false, .empty⟩), shelf)
      else
        (pass.remove.run offline shelf).ends := by
  unfold reconcile
  rw [hwant]
  simp only [obtain]
  cases hsingleton : pass.kind.singleton with
  | true => simp [proceed, htarget]
  | false =>
      simp only [Bool.false_eq_true, if_false, true_and]
      rw [ends_lookUp]
      cases hstored : shelf.snapshot.get? pass.key.display with
      | none => simp [proceed, htarget]
      | some raw => simp [proceed, htarget]

/-- A pass that removes a resource is quiet when there is none. -/
theorem quiet_of_absent
    (hwant : pass.kind.want pass.key.partition params pass.target = .ok want)
    (hsingleton : pass.kind.singleton = false) (htarget : pass.target = .absent)
    (hnone : shelf.snapshot.get? pass.key.display = none) :
    Quiet ((pass.reconcile params).run offline shelf) shelf.snapshot := by
  have hends := ends_reconcile_of_absent shelf hwant htarget
  rw [if_pos ⟨hsingleton, hnone⟩] at hends
  rw [quiet_iff_of_ends hends]
  exact ⟨_, rfl, rfl, rfl⟩

/-! ## What a pass leaves behind -/

theorem want_of_ok {report : Report}
    (hok : ((pass.reconcile params).run offline shelf).result = some (.ok report)) :
    ∃ want, pass.kind.want pass.key.partition params pass.target = .ok want := by
  unfold reconcile at hok
  cases hwant : pass.kind.want pass.key.partition params pass.target with
  | ok want => exact ⟨want, rfl⟩
  | error fault =>
      rw [hwant] at hok
      cases hok

theorem result_of_ends {σ α : Type} {run : Run σ α} {result : Option α} {state : σ}
    (hends : run.ends = (result, state)) : run.result = result ∧ run.state = state :=
  Prod.mk.inj hends

/-- After a successful pass that removes a resource there is none. -/
theorem gone_of_ok (hlive : pass.checkOnly = false) {report : Report}
    (hok : ((pass.reconcile params).run offline shelf).result = some (.ok report))
    (htarget : pass.target = .absent) :
    ((pass.reconcile params).run offline shelf).state.snapshot.get? pass.key.display =
      none := by
  obtain ⟨want, hwant⟩ := want_of_ok hok
  have hends := ends_reconcile_of_absent shelf hwant htarget
  split at hends
  · rename_i hmissing
    rw [(result_of_ends hends).2]
    exact hmissing.2
  · simp only [remove, hlive, Bool.false_eq_true, if_false] at hends
    -- what cannot be found cannot be deleted, so only a deletion that is seen to
    -- have worked succeeds
    cases hstored : shelf.snapshot.get? pass.key.display with
    | none =>
        rw [ends_delete_of_none _ hstored] at hends
        rw [(result_of_ends hends).1] at hok
        cases hok
    | some raw =>
        rw [ends_delete_of_some _ hstored, ends_lookUp] at hends
        cases hleft : (shelf.snapshot.erase pass.key.display).get? pass.key.display with
        | none =>
            simp only [hleft, Option.isSome_none, Bool.false_eq_true, if_false] at hends
            rw [(result_of_ends hends).2]
            exact hleft
        | some left =>
            simp only [hleft, Option.isSome_some, if_true] at hends
            rw [(result_of_ends hends).1] at hok
            cases hok

/-- A pass over a resource that is not there creates it, unless the kind says
why it cannot. -/
theorem ends_reconcile_of_none
    (hwant : pass.kind.want pass.key.partition params pass.target = .ok want)
    (htarget : pass.target ≠ .absent) (hsingleton : pass.kind.singleton = false)
    (hnone : shelf.snapshot.get? pass.key.display = none) :
    ((pass.reconcile params).run offline shelf).ends =
      (Conversation.run offline (match pass.kind.missing with
        | some reason => fail false (.precondition reason)
        | none => pass.create want) shelf).ends := by
  unfold reconcile
  rw [hwant]
  simp only [obtain, hsingleton, Bool.false_eq_true, if_false]
  rw [ends_lookUp, hnone, proceed, if_neg htarget]
  rfl

/-- A pass over a resource that always exists fails without it. -/
theorem ends_reconcile_of_singleton
    (hwant : pass.kind.want pass.key.partition params pass.target = .ok want)
    (htarget : pass.target ≠ .absent) (hsingleton : pass.kind.singleton = true)
    (hnone : shelf.snapshot.get? pass.key.display = none) :
    ((pass.reconcile params).run offline shelf).ends =
      (some (.error ⟨false, (notFound pass.key.display).fault⟩), shelf) := by
  unfold reconcile
  rw [hwant]
  simp only [obtain, hsingleton, if_true]
  rw [proceed, if_neg htarget, if_pos rfl, update, ends_read_of_none _ hnone]

/-- A successful pass over a resource that is there has a change set and sends it. -/
theorem converges_of_ok {report : Report}
    (hok : ((pass.reconcile params).run offline shelf).result = some (.ok report))
    (hwant : pass.kind.want pass.key.partition params pass.target = .ok want)
    (htarget : pass.target ≠ .absent)
    (hraw : shelf.snapshot.get? pass.key.display = some raw) :
    ∃ changes, pass.kind.changes want (pass.kind.read raw) = .ok changes ∧
      ((pass.reconcile params).run offline shelf).ends =
        ((pass.converge want (pass.kind.read raw) changes).run offline shelf).ends := by
  have hends := ends_reconcile_of_some hwant htarget hraw
  cases hchanges : pass.kind.changes want (pass.kind.read raw) with
  | error fault =>
      rw [hchanges] at hends
      rw [(result_of_ends hends).1] at hok
      cases hok
  | ok changes =>
      rw [hchanges] at hends
      exact ⟨changes, rfl, hends⟩

/-- A successful pass over a resource that is not there creates it: the creation
was neither ruled out by the kind nor refused. -/
theorem creates_of_ok {report : Report}
    (hok : ((pass.reconcile params).run offline shelf).result = some (.ok report))
    (hwant : pass.kind.want pass.key.partition params pass.target = .ok want)
    (htarget : pass.target ≠ .absent)
    (hnone : shelf.snapshot.get? pass.key.display = none) :
    ∃ creation, pass.kind.singleton = false ∧ pass.kind.creation want = .ok creation ∧
      ((pass.reconcile params).run offline shelf).ends =
        ((pass.create want).run offline shelf).ends := by
  cases hsingleton : pass.kind.singleton with
  | true =>
      have hends := ends_reconcile_of_singleton hwant htarget hsingleton hnone
      rw [(result_of_ends hends).1] at hok
      cases hok
  | false =>
      have hends := ends_reconcile_of_none hwant htarget hsingleton hnone
      cases hmissing : pass.kind.missing with
      | some reason =>
          rw [hmissing] at hends
          rw [(result_of_ends hends).1] at hok
          cases hok
      | none =>
          rw [hmissing] at hends
          cases hcreation : pass.kind.creation want with
          | error fault =>
              simp only [create, hcreation, obtain] at hends
              rw [(result_of_ends hends).1] at hok
              cases hok
          | ok creation => exact ⟨creation, rfl, rfl, hends⟩

/-- A successful pass that leaves a resource where there was none keeps its
resource, and is no dry run. -/
theorem live_of_stored {report : Report} {stored : Attributes}
    (hok : ((pass.reconcile params).run offline shelf).result = some (.ok report))
    (hwant : pass.kind.want pass.key.partition params pass.target = .ok want)
    (hnone : shelf.snapshot.get? pass.key.display = none)
    (hstored : ((pass.reconcile params).run offline shelf).state.snapshot.get?
      pass.key.display = some stored) : pass.target ≠ .absent ∧ pass.checkOnly = false := by
  -- as long as the device is as it was, nothing is stored
  have hkept : ((pass.reconcile params).run offline shelf).state ≠ shelf := by
    intro heq
    rw [heq, hnone] at hstored
    cases hstored
  have htarget : pass.target ≠ .absent := by
    intro habsent
    have hends := ends_reconcile_of_absent shelf hwant habsent
    split at hends
    · exact hkept (result_of_ends hends).2
    · rw [remove] at hends
      split at hends
      · exact hkept (result_of_ends hends).2
      · rw [ends_delete_of_none _ hnone] at hends
        exact hkept (result_of_ends hends).2
  refine ⟨htarget, Bool.eq_false_iff.mpr fun hdry => ?_⟩
  obtain ⟨creation, -, hcreation, hends⟩ := creates_of_ok hok hwant htarget hnone
  simp only [create, hcreation, obtain, hdry, if_true] at hends
  exact hkept (result_of_ends hends).2

/-- After a successful pass that updates a resource, the update is stored. -/
theorem Direct.updated_of_ok (h : pass.Direct) {report : Report}
    (hok : ((pass.reconcile params).run offline shelf).result = some (.ok report))
    (hwant : pass.kind.want pass.key.partition params pass.target = .ok want)
    (htarget : pass.target ≠ .absent)
    (hraw : shelf.snapshot.get? pass.key.display = some raw) :
    ∃ changes, pass.kind.changes want (pass.kind.read raw) = .ok changes ∧
      ((pass.reconcile params).run offline shelf).state.snapshot.get? pass.key.display =
        some (raw.update (pass.updateBody want (pass.kind.read raw) changes)) := by
  obtain ⟨changes, hchanges, hends⟩ := converges_of_ok hok hwant htarget hraw
  rw [h.ends_converge hraw] at hends
  refine ⟨changes, hchanges, ?_⟩
  split at hends
  · rename_i hidle
    -- nothing was sent, and merging the empty body is sending nothing
    rw [(result_of_ends hends).2, hraw, updateBody, hidle.2,
      Attributes.eq_empty_of_isEmpty hidle.1, h.writesNothing]
    rfl
  · rw [(result_of_ends hends).2]
    exact Snapshot.get?_insert_self _ _ _

/-- After a successful pass that creates a resource, the creation is stored. -/
theorem Direct.created_of_ok (h : pass.Direct) {report : Report}
    (hok : ((pass.reconcile params).run offline shelf).result = some (.ok report))
    (hwant : pass.kind.want pass.key.partition params pass.target = .ok want)
    (htarget : pass.target ≠ .absent)
    (hnone : shelf.snapshot.get? pass.key.display = none) :
    ∃ creation, pass.kind.singleton = false ∧ pass.kind.creation want = .ok creation ∧
      ((pass.reconcile params).run offline shelf).state.snapshot.get? pass.key.display =
        some (pass.creationBody creation) := by
  obtain ⟨creation, hsingleton, hcreation, hends⟩ := creates_of_ok hok hwant htarget hnone
  refine ⟨creation, hsingleton, hcreation, ?_⟩
  rw [h.create_eq hcreation, ends_create_of_none _ _ hnone, ends_succeed] at hends
  rw [(result_of_ends hends).2]
  exact Snapshot.get?_insert_self _ _ _

end Pass
end DesiredState
