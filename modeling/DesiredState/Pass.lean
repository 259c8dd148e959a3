import DesiredState.Report
import DesiredState.ResourceKind

/-!
# Passes

A pass drives one resource toward a target.  It is strictly sequenced:

1. the caller's parameters are validated, without a request;
2. the resource is looked up;
3. what it has is read and compared with what is wanted;
4. it is created, updated or deleted;
5. the follow-up jobs that are due run one after the other.

A pass in check mode stops before the first request that would change
anything, and reports what would have changed.
-/

namespace DesiredState

/-- What a caller may choose for a pass. -/
structure Pass.Options where
  /-- Whether only to report what would change. -/
  checkOnly : Bool := false
deriving Inhabited, Repr, DecidableEq

namespace Pass.Options

/-- Options as a JSON record. -/
def toJson (options : Pass.Options) : Json :=
  .object [("check_mode", .flag options.checkOnly)]

/-- The options that a JSON record holds; a missing one keeps its default. -/
def ofJson? (document : Json) : Option Pass.Options :=
  match Json.fields? ["check_mode"] document with
  | some [none] => some {}
  | some [some (.flag checkOnly)] => some { checkOnly }
  | _ => none

end Pass.Options

/-- One reconciliation of one resource. -/
structure Pass where
  kind : ResourceKind
  key : Key
  target : Target
  /-- Whether only to report what would change. -/
  checkOnly : Bool := false
  /-- How many polls an unbounded wait is followed for. -/
  patience : Nat

namespace Pass

/-- The talk of a pass: it ends in a report or in a setback. -/
abbrev Talk : Type := Conversation (Except Setback Report)

/-- A pass that succeeds. -/
def succeed (report : Report) : Talk := .done (.ok report)

/-- A pass that fails, before or after the device was changed. -/
def fail (changed : Bool) (fault : Fault) : Talk := .done (.error ⟨changed, fault⟩)

/-- Makes a request that the pass cannot go on without. -/
def require (changed : Bool) (request : Request) (next : request.Answer → Talk) : Talk :=
  .ask request fun
    | .ok answer => next answer
    | .error failure => fail changed failure.fault

/-- Goes on with a computed value, or fails with its fault. -/
def obtain {α : Type} (computed : Except Fault α) (next : α → Talk) : Talk :=
  match computed with
  | .ok value => next value
  | .error fault => fail false fault

/-- Runs the follow-ups that are due, in order, and adds to the report what
they have to report.  Each one starts after the one before it has ended. -/
def runFollowUps (pass : Pass) (want : Attributes) (satisfied wrote : Bool) :
    List FollowUp → Report → Talk
  | [], report => succeed report
  | followUp :: rest, report =>
      if followUp.isDue satisfied wrote then
        -- the payload is all that is wanted, not just what differed
        let operation : Operation :=
          ⟨followUp.job, pass.key, pass.kind.write want, followUp.mode⟩
        (followUp.wait.track pass.patience operation).bind fun
          | .error fault => fail true fault
          | .ok outcome =>
              let extra := (followUp.report.map fun hook => hook outcome).getD .empty
              pass.runFollowUps want satisfied wrote rest
                ⟨true, report.attributes.update extra⟩
      else
        pass.runFollowUps want satisfied wrote rest report

/-- Runs the follow-ups of the target from an observed condition. -/
def followUp (pass : Pass) (want : Attributes) (observed : Condition) (wrote : Bool)
    (report : Report) : Talk :=
  pass.runFollowUps want (pass.target.satisfiedBy observed) wrote
    (pass.kind.followUpsOf pass.target) report

/-- Deletes the resource and makes sure that it is gone. -/
def remove (pass : Pass) : Talk :=
  if pass.checkOnly then
    succeed ⟨true, .empty⟩
  else
    require false (.delete pass.key) fun _ =>
      require false (.lookUp pass.key) fun stillThere =>
        if stillThere then
          fail false (.fatal "failed to delete resource")
        else
          succeed ⟨true, .empty⟩

/-- The body of a creation: the name, the written attributes, and the flags
where they may be sent with a creation. -/
def creationBody (pass : Pass) (creation : Attributes) : Attributes :=
  let named := Attributes.empty.insert "name" (.text pass.key.name)
  let body := named.update (pass.kind.write creation)
  match pass.kind.flags with
  | some flags =>
      if flags.onCreate then body.update ((flags.forTarget pass.target).getD .empty) else body
  | none => body

/-- The flags that have to be set after a creation. -/
def flagsAfterCreation (pass : Pass) : Option Attributes :=
  match pass.kind.flags with
  | some flags => if flags.onCreate then none else flags.forTarget pass.target
  | none => none

/-- Creates the resource, then sets the flags that could not be sent along. -/
def create (pass : Pass) (want : Attributes) : Talk :=
  obtain (pass.kind.creation want) fun creation =>
    let report : Report :=
      ⟨true, Report.attributesOf want pass.kind.reportable creation⟩
    if pass.checkOnly then
      succeed report
    else
      require false (.create pass.key (pass.creationBody creation)) fun _ =>
        -- the condition is told from what was sent, as nothing is read back
        let rest := pass.followUp want (pass.kind.observe creation want) true report
        match pass.flagsAfterCreation with
        | some flags => require true (.update pass.key flags) fun _ => rest
        | none => rest

/-- The flags that an update has to set. -/
def flagsOfUpdate (pass : Pass) (observed : Condition) : Option Attributes :=
  match pass.kind.flags with
  | some flags =>
      if pass.target.satisfiedBy observed then none else flags.forTarget pass.target
  | none => none

/-- Whether a follow-up is due because the target is not satisfied. -/
def followUpsDue (pass : Pass) (observed : Condition) : Bool :=
  (pass.kind.followUpsOf pass.target).any fun followUp =>
    followUp.trigger == .unsatisfied && !pass.target.satisfiedBy observed

/-- Sends what differs, once it is known what the resource has. -/
def converge (pass : Pass) (want held changes : Attributes) : Talk :=
  let observed := pass.kind.observe held want
  let flags := pass.flagsOfUpdate observed
  let writes := !changes.isEmpty || flags.isSome
  let attributes := Report.attributesOf want pass.kind.reportable changes
  -- a follow-up that is due makes a change, even where nothing is written
  if !writes && !pass.followUpsDue observed then
    succeed ⟨false, attributes⟩
  else if pass.checkOnly then
    succeed ⟨true, attributes⟩
  else
    let rest := pass.followUp want observed writes ⟨true, attributes⟩
    if writes then
      let body := (pass.kind.write changes).update (flags.getD .empty)
      require false (.update pass.key body) fun _ => rest
    else
      rest

/-- Updates the resource where it differs from what is wanted. -/
def update (pass : Pass) (want : Attributes) : Talk :=
  require false (.read pass.key) fun raw =>
    let held := pass.kind.read raw
    obtain (pass.kind.changes want held) fun changes => pass.converge want held changes

/-- What follows once it is known whether the resource exists. -/
def proceed (pass : Pass) (want : Attributes) (found : Bool) : Talk :=
  if pass.target = .absent then
    if found then pass.remove else succeed ⟨false, .empty⟩
  else if found then
    pass.update want
  else
    match pass.kind.missing with
    | some reason => fail false (.precondition reason)
    | none => pass.create want

/-- The talk of a pass for some caller parameters. -/
def reconcile (pass : Pass) (params : Attributes) : Talk :=
  obtain (pass.kind.want pass.key.partition params pass.target) fun want =>
    if pass.kind.singleton then
      -- whether it is there shows when it is read
      pass.proceed want true
    else
      require false (.lookUp pass.key) fun found => pass.proceed want found

end Pass
end DesiredState
