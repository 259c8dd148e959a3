import DesiredState.Proofs.Pass.Course
import DesiredState.Proofs.Pass.Repetition

/-!
# The bodies that a pass sends

What a pass asks to be stored is the body of a creation or of an update.  A pass
that sends one keeps its resource and is no dry run, whatever the device replies
(`kept_of_body`).  Against the offline device a pass that takes no job sends one
at most, and it is told from what is wanted and what is stored
(`Direct.bodies_of_some`, `Direct.bodies_of_none`).

`Plan.bodies_iff_lasts` takes a property of bodies to work orders: all that are
sent have it exactly when it holds of the one body that the pass comes to.
-/

namespace DesiredState

/-- The body that a request wants stored. -/
def Request.body? : Request → Option Attributes
  | .create _ body | .update _ body => some body
  | _ => none

namespace Run

variable {σ α : Type}

/-- The bodies that a run sends, in order. -/
def bodies (run : Run σ α) : List Attributes :=
  run.requests.filterMap Request.body?

theorem bodies_eq_nil_iff {run : Run σ α} :
    run.bodies = [] ↔ ∀ call ∈ run.calls, call.request.body? = none := by
  rw [bodies, List.filterMap_eq_nil_iff, requests_eq, List.forall_mem_map]

theorem bodies_after_asked (request : Request) (reply : request.Reply) (run : Run σ α) :
    (run.after (.asked request reply)).bodies = request.body?.toList ++ run.bodies := by
  change (request :: run.requests).filterMap Request.body? = _
  rw [List.filterMap_cons]
  cases request.body? with
  | none => rfl
  | some body => rfl

end Run

namespace Pass

open Device Conversation

variable {pass : Pass} {params want raw : Attributes} {calls : List Call} {shelf : Shelf}

/-! ## On every device -/

/-- A body is sent by a pass only that keeps its resource and is no dry run. -/
theorem Proceeds.kept_of_body {found : Bool} (h : pass.Proceeds want found calls)
    {call : Call} (hcall : call ∈ calls) {body : Attributes}
    (hbody : call.request.body? = some body) :
    pass.target ≠ .absent ∧ pass.checkOnly = false := by
  cases h with
  | stopped unneeded => cases hcall
  | removed target live rest =>
      rcases rest.request_of_mem hcall with hdelete | ⟨-, later, hlater, hmem⟩
      · rw [hdelete] at hbody
        cases hbody
      · rcases hlater.request_of_mem hmem with hlookUp | ⟨-, last, rfl, hlast⟩
        · rw [hlookUp] at hbody
          cases hbody
        · cases hlast
  | created target live complete flags_only rest => exact ⟨target, live⟩
  | updated target rest =>
      rcases rest.request_of_mem hcall with hread | ⟨raw, later, hlater, hmem⟩
      · rw [hread] at hbody
        cases hbody
      · cases hlater with
        | stopped => cases hmem
        | sent live changed body_eq rest => exact ⟨target, live⟩

theorem kept_of_body (h : pass.Course params calls) {call : Call} (hcall : call ∈ calls)
    {body : Attributes} (hbody : call.request.body? = some body) :
    pass.target ≠ .absent ∧ pass.checkOnly = false := by
  unfold Course at h
  split at h
  · rw [h] at hcall
    cases hcall
  · split at h
    · exact h.kept_of_body hcall hbody
    · rcases h.request_of_mem hcall with hlookUp | ⟨found, rest, hrest, hmem⟩
      · rw [hlookUp] at hbody
        cases hbody
      · exact hrest.kept_of_body hmem hbody

/-- A dry run sends no body, and neither does a pass that removes its resource. -/
theorem bodies_eq_nil {σ : Type} {device : Device σ} {state : σ}
    (h : pass.target = .absent ∨ pass.checkOnly = true) :
    ((pass.reconcile params).run device state).bodies = [] := by
  rw [Run.bodies_eq_nil_iff]
  intro call hcall
  cases hbody : call.request.body? with
  | none => rfl
  | some body =>
      obtain ⟨hkept, hlive⟩ := kept_of_body (course_of_branch (branch_run device _ state))
        hcall hbody
      rcases h with habsent | hdry
      · exact absurd habsent hkept
      · rw [hlive] at hdry
        cases hdry

/-! ## Against the offline device -/

theorem bodies_lookUp {changed : Bool} {key : Key} (next : Bool → Talk) :
    ((require changed (.lookUp key) next).run offline shelf).bodies =
      ((next (shelf.snapshot.get? key.display).isSome).run offline shelf).bodies :=
  rfl

theorem bodies_read_of_some {changed : Bool} {key : Key} (next : Attributes → Talk)
    (hraw : shelf.snapshot.get? key.display = some raw) :
    ((require changed (.read key) next).run offline shelf).bodies =
      ((next raw).run offline shelf).bodies := by
  simp only [require, Conversation.run, offline, Shelf.answer, hraw, Run.bodies_after_asked,
    Request.body?, Option.toList_none, List.nil_append]

/-- A body is sent once, and nothing that ends the pass sends another. -/
theorem bodies_of_send {changed : Bool} {request : Request} {body : Attributes}
    (hbody : request.body? = some body) {report : Report} :
    ((require changed request fun _ => succeed report).run offline shelf).bodies =
      [body] := by
  simp only [require, Conversation.run, Run.bodies_after_asked, hbody, Option.toList_some]
  cases (offline.answer request shelf).1 with
  | ok answer => rfl
  | error failure => rfl

/-- A pass over a resource that is there sends its update, where there is one. -/
theorem Direct.bodies_of_some (h : pass.Direct)
    (hwant : pass.kind.want pass.key.partition params pass.target = .ok want)
    (htarget : pass.target ≠ .absent)
    (hraw : shelf.snapshot.get? pass.key.display = some raw) :
    ((pass.reconcile params).run offline shelf).bodies =
      match pass.kind.changes want (pass.kind.read raw) with
      | .error _ => []
      | .ok changes =>
          if changes.isEmpty ∧
              pass.flagsOfUpdate (pass.kind.observe (pass.kind.read raw) want) = none then
            []
          else
            [pass.updateBody want (pass.kind.read raw) changes] := by
  have hproceed : ((pass.proceed want true).run offline shelf).bodies =
      ((obtain (pass.kind.changes want (pass.kind.read raw)) fun changes =>
        pass.converge want (pass.kind.read raw) changes).run offline shelf).bodies := by
    unfold proceed
    rw [if_neg htarget, if_pos rfl, update, bodies_read_of_some _ hraw]
  have hreconcile : ((pass.reconcile params).run offline shelf).bodies =
      ((pass.proceed want true).run offline shelf).bodies := by
    unfold reconcile
    rw [hwant]
    simp only [obtain]
    split
    · rfl
    · rw [bodies_lookUp, hraw]
      rfl
  rw [hreconcile, hproceed]
  cases hchanges : pass.kind.changes want (pass.kind.read raw) with
  | error fault => rfl
  | ok changes =>
      simp only [obtain]
      rw [h.converge_eq]
      split
      · rfl
      · exact bodies_of_send rfl

/-- To ask something of all that an update sends is to ask it of its body, which is
empty where nothing is sent. -/
theorem Direct.forall_sent_iff (h : pass.Direct) {allowed : Attributes → Prop}
    (hnothing : allowed .empty) (want held : Attributes) {changes : Attributes} :
    (∀ body ∈ (if changes.isEmpty ∧
          pass.flagsOfUpdate (pass.kind.observe held want) = none then []
        else [pass.updateBody want held changes]), allowed body) ↔
      allowed (pass.updateBody want held changes) := by
  split
  · rename_i hidle
    have hempty : pass.updateBody want held changes = .empty := by
      rw [updateBody, hidle.2, Attributes.eq_empty_of_isEmpty hidle.1, h.writesNothing]
      rfl
    rw [hempty]
    exact iff_of_true (List.forall_mem_nil _) hnothing
  · exact List.forall_mem_singleton

/-- A pass over a resource that is not there sends its creation, where there is
one and the resource may be created. -/
theorem Direct.bodies_of_none (h : pass.Direct)
    (hwant : pass.kind.want pass.key.partition params pass.target = .ok want)
    (htarget : pass.target ≠ .absent) (hsingleton : pass.kind.singleton = false)
    (hmissing : pass.kind.missing = none)
    (hnone : shelf.snapshot.get? pass.key.display = none) :
    ((pass.reconcile params).run offline shelf).bodies =
      match pass.kind.creation want with
      | .error _ => []
      | .ok creation => [pass.creationBody creation] := by
  unfold reconcile
  rw [hwant]
  simp only [obtain, hsingleton, Bool.false_eq_true, if_false]
  rw [bodies_lookUp, hnone, proceed, if_neg htarget, hmissing]
  simp only [Option.isSome_none, Bool.false_eq_true, if_false]
  cases hcreation : pass.kind.creation want with
  | error fault =>
      rw [create, hcreation]
      rfl
  | ok creation =>
      rw [h.create_eq hcreation]
      exact bodies_of_send rfl

/-- A pass whose parameters are refused sends nothing. -/
theorem bodies_of_refused {fault : Fault}
    (hwant : pass.kind.want pass.key.partition params pass.target = .error fault) :
    ((pass.reconcile params).run offline shelf).bodies = [] := by
  unfold reconcile
  rw [hwant]
  rfl

end Pass

namespace Plan

open Device Pass

variable {order : WorkOrder} {patience : Nat} {shelf : Shelf}

/-- All bodies that a work order sends have a property exactly when the order is a
dry run or the one body has it that its pass comes to. -/
theorem bodies_iff_lasts {kind : ResourceKind} {allowed : Attributes → Prop}
    {creation : Attributes → Prop} {update : Attributes → Attributes → Attributes → Prop}
    (hkind : ∀ pass, passOf order patience = .ok pass → pass.kind = kind)
    (himmediate : kind.Immediate) (hsingleton : kind.singleton = false)
    (hmissing : kind.missing = none) (hnothing : allowed .empty)
    (hcreation : ∀ {pass : Pass} {want : Attributes}, pass.kind = kind →
      kind.Accepts pass.key.partition order.params pass.target want →
        ((∀ created, kind.creation want = .ok created →
          allowed (pass.creationBody created)) ↔ creation want))
    (hupdate : ∀ {pass : Pass} {want raw changes : Attributes}, pass.kind = kind →
      kind.Accepts pass.key.partition order.params pass.target want →
        shelf.snapshot.get? pass.key.display = some raw →
          kind.changes want (kind.read raw) = .ok changes →
            (allowed (pass.updateBody want (kind.read raw) changes) ↔
              update want raw changes)) :
    (∀ body ∈ (run order patience shelf).bodies, allowed body) ↔
      (order.checkOnly = false → Lasts order patience shelf.snapshot creation update) := by
  -- where nothing is sent there is nothing to be shown on either side
  have hsilent : (run order patience shelf).bodies = [] →
      (order.checkOnly = false → Lasts order patience shelf.snapshot creation update) →
        ((∀ body ∈ (run order patience shelf).bodies, allowed body) ↔
          (order.checkOnly = false →
            Lasts order patience shelf.snapshot creation update)) := by
    intro hbodies hlasts
    rw [hbodies]
    exact iff_of_true (List.forall_mem_nil _) hlasts
  cases hpass : passOf order patience with
  | error fault =>
      refine hsilent ?_ fun _ pass hother => ?_
      · unfold run talk
        rw [hpass]
        rfl
      · cases hpass.symm.trans hother
  | ok pass =>
      obtain ⟨-, -, -, hcheck⟩ := passOf_eq_ok hpass
      obtain rfl := hkind pass hpass
      have hrun := run_of_passOf hpass shelf
      by_cases hlive : order.checkOnly = false
      · by_cases htarget : pass.target = .absent
        · refine hsilent (hrun ▸ bodies_eq_nil (.inl htarget)) fun _ other hother hkept => ?_
          obtain rfl := Except.ok.inj (hother.symm.trans hpass)
          exact absurd htarget hkept
        · have hdirect := direct_of_kind rfl himmediate (hcheck.trans hlive)
          cases hwant : pass.kind.want pass.key.partition order.params pass.target with
          | error fault =>
              refine hsilent (hrun ▸ bodies_of_refused hwant)
                fun _ other hother _ want hother' => ?_
              obtain rfl := Except.ok.inj (hother.symm.trans hpass)
              cases hwant.symm.trans hother'
          | ok want =>
              have haccepts := ResourceKind.accepts_of_want hwant
              rw [lasts_iff hpass hwant htarget, hrun, forall_prop_of_true hlive]
              cases hstored : shelf.snapshot.get? pass.key.display with
              | none =>
                  rw [hdirect.bodies_of_none hwant htarget hsingleton hmissing hstored]
                  refine Iff.trans ?_ (hcreation rfl haccepts)
                  cases pass.kind.creation want with
                  | error fault => simp
                  | ok created => simp
              | some raw =>
                  rw [hdirect.bodies_of_some hwant htarget hstored]
                  cases hchanges : pass.kind.changes want (pass.kind.read raw) with
                  | error fault => simp [Pass.Lasts, hchanges]
                  | ok changes =>
                      simp only [Pass.Lasts, hchanges, Except.ok.injEq, forall_eq']
                      rw [← hupdate rfl haccepts hstored hchanges]
                      exact hdirect.forall_sent_iff hnothing want (pass.kind.read raw)
      · refine hsilent ?_ fun hlive' => absurd hlive' hlive
        rw [hrun]
        exact bodies_eq_nil (.inr (hcheck.trans (Bool.of_not_eq_false hlive)))

end Plan
end DesiredState
