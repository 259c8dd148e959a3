import DesiredState.Proofs.Pass.Minutes

/-!
# Dry runs

A pass in check mode stops where a live one would first change something, and
reports what it expects.  Against the same device, in the same state, the two
can be compared:

* the dry pass asks exactly the looks with which the live one begins;
* where the dry pass fails, the live one fails in the same way;
* where both succeed, they agree on whether anything changes, and the live
  report is the dry one with what the follow-ups had to report.

`Foresees` compares the two as talks, before any device is at hand: they end
alike, or they look at the same thing and go on from every reply, or the dry
one has ended and the live one begins to act.  `foretells_of_foresees` runs both
against a device.

Where the dry pass succeeds, the live one may still fail.
-/

namespace DesiredState

/-- What an errand has to report: nothing unless it ended well. -/
def Errand.reported (errand : Errand) : Attributes :=
  match errand.ending with
  | some (.ok outcome) => errand.followUp.reported outcome
  | _ => .empty

/-- A report with what some errands have to report, one after the other. -/
def Report.reporting (report : Report) (errands : List Errand) : Report :=
  { report with
    attributes := errands.foldl (fun set errand => set.update errand.reported)
      report.attributes }

/-- What no errand reports stays as it was. -/
theorem Report.get?_reporting {name : String} {errands : List Errand} (report : Report)
    (h : ∀ errand ∈ errands, name ∉ errand.reported.names) :
    (report.reporting errands).attributes.get? name = report.attributes.get? name := by
  induction errands generalizing report with
  | nil => rfl
  | cons errand rest ih =>
      obtain ⟨hunnamed, hrest⟩ := List.forall_mem_cons.mp h
      have hkept : (report.attributes.update errand.reported).get? name =
          report.attributes.get? name := by
        rw [Attributes.get?, Attributes.update, Entries.lookup_merge,
          Entries.latest_eq_none_iff.mpr hunnamed, Option.none_or, Attributes.get?]
      exact (ih ⟨report.changed, report.attributes.update errand.reported⟩ hrest).trans hkept

namespace Pass

open Conversation

/-- The pass as a dry run. -/
def dry (pass : Pass) : Pass :=
  { pass with checkOnly := true }

/-- The pass as no dry run. -/
def live (pass : Pass) : Pass :=
  { pass with checkOnly := false }

/-- A follow-up of the target was followed to a good end. -/
structure Followed (pass : Pass) (params : Attributes) (errand : Errand) : Prop where
  declared : errand.followUp ∈ pass.kind.followUpsOf pass.target
  endsWell : ∃ outcome, errand.ending = some (.ok outcome)
  tracked : ∃ want, pass.kind.want pass.key.partition params pass.target = .ok want ∧
    (pass.errandTalk want errand.followUp).Branch errand.calls errand.ending

/-- A report is a foretold one, with what the follow-ups had to report for which
all the calls about jobs were made. -/
def Fulfils (pass : Pass) (params : Attributes) (foretold : Report) (calls : List Call)
    (report : Report) : Prop :=
  ∃ own errands, calls = own ++ Errand.callsOf errands ∧
    (∀ call ∈ own, call.request.isAboutJob = false) ∧
      (∀ errand ∈ errands, pass.Followed params errand) ∧ report = foretold.reporting errands

/-- What a dry run tells of a live one. -/
structure Foretells {σ : Type} (pass : Pass) (params : Attributes)
    (dry live : Run σ (Except Setback Report)) : Prop where
  /-- The dry run is not broken off. -/
  ends : dry.result.isSome = true
  /-- It asks the looks with which the live one begins. -/
  calls : dry.calls = live.calls.takeWhile fun call => call.request.isLook
  /-- Its setback is that of the live one. -/
  setback : ∀ setback, dry.result = some (.error setback) →
    live.result = some (.error setback)
  /-- Its report is that of the live one, but for the follow-ups. -/
  report : ∀ foretold report, dry.result = some (.ok foretold) →
    live.result = some (.ok report) →
      report.changed = foretold.changed ∧ pass.Fulfils params foretold live.calls report

variable {pass : Pass} {params want : Attributes} {calls : List Call} {foretold report : Report}
  {talk : Talk} {errands : List Errand}

/-! ## Fulfilled reports -/

/-- Errands that have all ended well add what they report. -/
theorem Errands.fulfilled {followUps : List FollowUp} {result : Option (Except Setback Report)}
    (h : pass.Errands want followUps foretold errands result)
    (hresult : result = some (.ok report)) (hchanged : foretold.changed = true) :
    (∀ errand ∈ errands, errand.followUp ∈ followUps ∧
        ∃ outcome, errand.ending = some (.ok outcome)) ∧
      report = foretold.reporting errands := by
  induction h with
  | finished foretold =>
      obtain rfl := Except.ok.inj (Option.some.inj hresult)
      exact ⟨List.forall_mem_nil _, rfl⟩
  | @followed followUp later foretold calls outcome errands result tracked rest ih =>
      obtain ⟨hrest, rfl⟩ := ih hresult rfl
      refine ⟨List.forall_mem_cons.mpr ⟨⟨List.mem_cons_self, outcome, rfl⟩,
        fun errand hmem => ⟨List.mem_cons_of_mem _ (hrest errand hmem).1,
          (hrest errand hmem).2⟩⟩, ?_⟩
      rw [Report.reporting, Report.reporting, hchanged]
      rfl
  | failed tracked => cases hresult
  | brokenOff tracked => cases hresult

theorem Fulfils.changed_eq (h : pass.Fulfils params foretold calls report) :
    report.changed = foretold.changed := by
  obtain ⟨-, -, -, -, -, rfl⟩ := h
  rfl

/-- An attribute that no follow-up of the target reports is as it was foretold. -/
theorem Fulfils.get?_eq {name : String} (h : pass.Fulfils params foretold calls report)
    (hunreported : ∀ followUp ∈ pass.kind.followUpsOf pass.target, ∀ outcome,
      name ∉ (followUp.reported outcome).names) :
    report.attributes.get? name = foretold.attributes.get? name := by
  obtain ⟨own, errands, -, -, hfollowed, rfl⟩ := h
  refine foretold.get?_reporting fun errand hmem => ?_
  obtain ⟨outcome, hended⟩ := (hfollowed errand hmem).endsWell
  rw [Errand.reported, hended]
  exact hunreported _ (hfollowed errand hmem).declared outcome

/-- A look beforehand makes no difference. -/
theorem Fulfils.of_look {call : Call} (h : pass.Fulfils params foretold calls report)
    (hlook : call.request.isLook = true) : pass.Fulfils params foretold (call :: calls) report := by
  obtain ⟨own, errands, rfl, hown, hfulfils⟩ := h
  exact ⟨call :: own, errands, rfl,
    List.forall_mem_cons.mpr ⟨Request.isAboutJob_of_isLook hlook, hown⟩, hfulfils⟩

/-- Whenever a talk ends well, its report fulfils a foretold one. -/
def Fulfilling (pass : Pass) (params : Attributes) (foretold : Report) (talk : Talk) : Prop :=
  ∀ calls report, talk.Branch calls (some (.ok report)) →
    pass.Fulfils params foretold calls report

theorem fulfilling_succeed : pass.Fulfilling params foretold (succeed foretold) := by
  intro calls report h
  obtain ⟨rfl, hresult⟩ := branch_succeed h
  obtain rfl := Except.ok.inj (Option.some.inj hresult)
  exact ⟨[], [], rfl, List.forall_mem_nil _, List.forall_mem_nil _, rfl⟩

theorem fulfilling_fail {changed : Bool} {fault : Fault} :
    pass.Fulfilling params foretold (fail changed fault) := by
  intro calls report h
  cases (branch_fail h).2

theorem fulfilling_require {changed : Bool} {request : Request}
    {next : request.Answer → Talk} (hjobless : request.isAboutJob = false)
    (hnext : ∀ answer, pass.Fulfilling params foretold (next answer)) :
    pass.Fulfilling params foretold (require changed request next) := by
  intro calls report h
  rcases branch_require h with ⟨failure, -, hresult⟩ | ⟨answer, rest, rfl, hrest⟩
  · cases hresult
  · obtain ⟨own, errands, rfl, hown, hfulfils⟩ := hnext answer rest report hrest
    exact ⟨_ :: own, errands, rfl, List.forall_mem_cons.mpr ⟨hjobless, hown⟩, hfulfils⟩

theorem fulfilling_followUp {observed : Condition} {wrote : Bool}
    (hvalid : pass.kind.want pass.key.partition params pass.target = .ok want)
    (hchanged : foretold.changed = true) :
    pass.Fulfilling params foretold (pass.followUp want observed wrote foretold) := by
  intro calls report h
  obtain ⟨errands, herrands, rfl⟩ := errands_of_followUp h
  obtain ⟨hended, rfl⟩ := herrands.fulfilled rfl hchanged
  refine ⟨[], errands, rfl, List.forall_mem_nil _, fun errand hmem => ?_, rfl⟩
  exact {
    declared := (List.mem_filter.mp (hended errand hmem).1).1
    endsWell := (hended errand hmem).2
    tracked := ⟨want, hvalid, herrands.branch_of_mem errand hmem⟩ }

/-! ## Talks that begin to act -/

/-- Whatever a talk asks first, it is no look. -/
def Acts (talk : Talk) : Prop :=
  ∀ calls result, talk.Branch calls result →
    calls.takeWhile (fun call => call.request.isLook) = []

theorem acts_require {changed : Bool} {request : Request} {next : request.Answer → Talk}
    (h : request.isLook = false) : Acts (require changed request next) := by
  intro calls result hbranch
  rcases branch_require hbranch with ⟨failure, rfl, -⟩ | ⟨answer, rest, rfl, -⟩
  · exact List.takeWhile_cons_of_neg (by simp [h])
  · exact List.takeWhile_cons_of_neg (by simp [h])

theorem acts_followUp {observed : Condition} {wrote : Bool} :
    Acts (pass.followUp want observed wrote report) := by
  intro calls result hbranch
  obtain ⟨errands, herrands, rfl⟩ := errands_of_followUp hbranch
  cases hcalls : Errand.callsOf errands with
  | nil => rfl
  | cons call rest =>
      have hjob := herrands.isAboutJob call (hcalls ▸ List.mem_cons_self)
      refine List.takeWhile_cons_of_neg fun hlook => ?_
      rw [Request.isAboutJob_of_isLook hlook] at hjob
      cases hjob

/-! ## The two passes as talks -/

/-- A dry talk foresees a live one: they end alike, or they ask the same look and
go on from every reply; or the dry one has a report where the live one begins to
act. -/
inductive Foresees (pass : Pass) (params : Attributes) : Talk → Talk → Prop
  | ended (ending : Except Setback Report) :
      Foresees pass params (.done ending) (.done ending)
  | looked {request : Request} {dry live : request.Reply → Talk}
      (look : request.isLook = true)
      (rest : ∀ reply, Foresees pass params (dry reply) (live reply)) :
      Foresees pass params (.ask request dry) (.ask request live)
  | stopped {foretold : Report} {talk : Talk} (acts : Acts talk)
      (fulfilling : pass.Fulfilling params foretold talk) :
      Foresees pass params (succeed foretold) talk

theorem foresees_require {changed : Bool} {request : Request}
    {dry live : request.Answer → Talk} (look : request.isLook = true)
    (rest : ∀ answer, pass.Foresees params (dry answer) (live answer)) :
    pass.Foresees params (require changed request dry) (require changed request live) := by
  refine .looked look fun reply => ?_
  cases reply with
  | error failure => exact .ended _
  | ok answer => exact rest answer

theorem foresees_obtain {α : Type} {computed : Except Fault α} {dry live : α → Talk}
    (h : ∀ value, computed = .ok value → pass.Foresees params (dry value) (live value)) :
    pass.Foresees params (obtain computed dry) (obtain computed live) := by
  cases computed with
  | error fault => exact .ended _
  | ok value => exact h value rfl

theorem foresees_ite {condition : Prop} [Decidable condition] {dry live dry' live' : Talk}
    (holds : condition → pass.Foresees params dry live)
    (fails : ¬condition → pass.Foresees params dry' live') :
    pass.Foresees params (if condition then dry else dry')
      (if condition then live else live') := by
  split
  · exact holds ‹_›
  · exact fails ‹_›

theorem foresees_remove : pass.live.Foresees params pass.dry.remove pass.live.remove := by
  refine .stopped (acts_require rfl) (fulfilling_require rfl fun _ =>
    fulfilling_require rfl fun stillThere => ?_)
  cases stillThere with
  | true => exact fulfilling_fail
  | false => exact fulfilling_succeed

section Kept

variable (hvalid : pass.kind.want pass.key.partition params pass.target = .ok want)
include hvalid

theorem foresees_create :
    pass.live.Foresees params (pass.dry.create want) (pass.live.create want) := by
  refine foresees_obtain fun creation _ => ?_
  refine .stopped (acts_require rfl) (fulfilling_require rfl fun _ => ?_)
  dsimp only
  cases pass.live.flagsAfterCreation with
  | none => exact fulfilling_followUp hvalid rfl
  | some flags => exact fulfilling_require rfl fun _ => fulfilling_followUp hvalid rfl

theorem foresees_converge {held changes : Attributes} :
    pass.live.Foresees params (pass.dry.converge want held changes)
      (pass.live.converge want held changes) := by
  refine foresees_ite (fun _ => .ended _) fun _ => ?_
  -- the dry pass has a report here, and the live one writes, or starts its follow-ups
  change pass.live.Foresees params (succeed _) (if _ then require _ _ _ else pass.live.followUp ..)
  split
  · exact .stopped (acts_require rfl)
      (fulfilling_require rfl fun _ => fulfilling_followUp hvalid rfl)
  · exact .stopped acts_followUp (fulfilling_followUp hvalid rfl)

theorem foresees_update :
    pass.live.Foresees params (pass.dry.update want) (pass.live.update want) :=
  foresees_require rfl fun _ => foresees_obtain fun _ _ => foresees_converge hvalid

theorem foresees_proceed {found : Bool} :
    pass.live.Foresees params (pass.dry.proceed want found) (pass.live.proceed want found) := by
  refine foresees_ite (fun _ => ?_) fun _ => ?_
  · exact foresees_ite (fun _ => foresees_remove) fun _ => .ended _
  · refine foresees_ite (fun _ => foresees_update hvalid) fun _ => ?_
    dsimp only [dry, live]
    cases pass.kind.missing with
    | some reason => exact .ended _
    | none => exact foresees_create hvalid

end Kept

/-- A dry pass foresees the live one. -/
theorem foresees_reconcile :
    pass.live.Foresees params (pass.dry.reconcile params) (pass.live.reconcile params) :=
  foresees_obtain fun _ hvalid => foresees_ite (fun _ => foresees_proceed hvalid) fun _ =>
    foresees_require rfl fun _ => foresees_proceed hvalid

/-! ## The two passes as runs -/

/-- Against a device, a talk that foresees another one foretells its run. -/
theorem foretells_of_foresees {σ : Type} (device : Device σ) {dry live : Talk}
    (h : pass.Foresees params dry live) (state : σ) :
    pass.Foretells params (dry.run device state) (live.run device state) := by
  induction h generalizing state with
  | ended ending =>
      refine ⟨rfl, rfl, fun _ => id, fun foretold report hdry hlive => ?_⟩
      obtain rfl := Except.ok.inj (Option.some.inj (hdry.symm.trans hlive))
      exact ⟨rfl, [], [], rfl, List.forall_mem_nil _, List.forall_mem_nil _, rfl⟩
  | @looked request dry live look rest ih =>
      obtain ⟨hends, hcalls, hsetback, hreport⟩ :=
        ih (device.answer request state).1 (device.answer request state).2
      refine ⟨hends, ?_, hsetback, fun foretold report hdry hlive => ?_⟩
      · rw [calls_run_ask, calls_run_ask, List.takeWhile_cons, if_pos look, hcalls]
      · obtain ⟨hchanged, hfulfils⟩ := hreport foretold report hdry hlive
        exact ⟨hchanged, hfulfils.of_look look⟩
  | @stopped foretold talk acts fulfilling =>
      have hbranch := branch_run device talk state
      refine ⟨rfl, (acts _ _ hbranch).symm, nofun, fun other report hdry hlive => ?_⟩
      obtain rfl := Except.ok.inj (Option.some.inj hdry)
      rw [hlive] at hbranch
      have hfulfils := fulfilling _ report hbranch
      exact ⟨hfulfils.changed_eq, hfulfils⟩

/-- Against every device, from every state, a dry run foretells the live one. -/
theorem dry_foretells {σ : Type} (device : Device σ) (pass : Pass) (params : Attributes)
    (state : σ) :
    pass.live.Foretells params ((pass.dry.reconcile params).run device state)
      ((pass.live.reconcile params).run device state) :=
  foretells_of_foresees device foresees_reconcile state

end Pass
end DesiredState
