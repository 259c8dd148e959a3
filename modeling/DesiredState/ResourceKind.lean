import DesiredState.Lifecycle
import DesiredState.Schema.Change
import DesiredState.Wait

/-!
# Kinds of resources

All that sets one kind of resource apart is data: its schema, which names may
be updated, the rules between attributes, what a creation needs, which targets
are supported, how a stored resource is read and written, and which jobs a
target takes.
-/

namespace DesiredState

/-- The pair of flags by which a resource is enabled or disabled. -/
structure FlagPair where
  enabled : String
  disabled : String
  /-- Whether the flags may be sent with a creation. -/
  onCreate : Bool
deriving Inhabited, Repr, DecidableEq

namespace FlagPair

/-- The flags of a target, if it asks for any. -/
def forTarget (flags : FlagPair) (target : Target) : Option Attributes :=
  target.enabledFlag.map fun on =>
    (Attributes.empty.insert flags.enabled (.flag on)).insert flags.disabled (.flag !on)

/-- The condition that the flags of an existing resource show. -/
def observe (flags : FlagPair) (held : Attributes) : Condition :=
  if held.flag? flags.disabled == some true || held.flag? flags.enabled == some false then
    .presentDisabled
  else
    .presentEnabled

end FlagPair

/-- When a follow-up job is due. -/
inductive Trigger where
  /-- When the observed condition does not satisfy the target. -/
  | unsatisfied
  /-- When something was created or updated. -/
  | afterWrite
deriving Inhabited, Repr, DecidableEq

/-- A job that follows the main write. -/
structure FollowUp where
  job : Job
  /-- Whether it is started, or only watched. -/
  mode : Mode
  /-- How it is awaited. -/
  wait : Wait
  /-- When it is due. -/
  trigger : Trigger := .unsatisfied
  /-- The attributes to report of its outcome. -/
  report : Option (Outcome → Attributes) := none

namespace FollowUp

/-- A follow-up that starts a job. -/
def submit (job : Job) (wait : Wait) : FollowUp := { job, wait, mode := .submit }

/-- A follow-up that only watches. -/
def watch (job : Job) (wait : Wait) : FollowUp := { job, wait, mode := .watch }

/-- Whether a follow-up is due. -/
def isDue (followUp : FollowUp) (satisfied wrote : Bool) : Bool :=
  match followUp.trigger with
  | .unsatisfied => !satisfied
  | .afterWrite => wrote

end FollowUp

/-- One kind of resource. -/
structure ResourceKind where
  /-- The name of the kind, such as `ltm/virtual`. -/
  name : String
  schema : Schema
  /-- The names that may be updated, in order. -/
  updatable : List String := schema.names
  /-- The names that are reported whenever they are wanted. -/
  reportable : List String := []
  dependencies : List Dependency := []
  /-- Pairs that may not both be set to something. -/
  exclusive : List (String × String) := []
  /-- Pairs that may not be given together at all, even to clear them. -/
  conflicting : List (String × String) := []
  /-- The names that a creation needs. -/
  requiredOnCreate : List String := []
  /-- The values that a creation falls back on; they never replace wanted ones. -/
  defaults : Attributes → Attributes := fun _ => .empty
  /-- What is asked of a want map beyond its schema. -/
  validate : Attributes → Except Fault Unit := fun _ => .ok ()
  /-- The supported targets, in order. -/
  targets : List Target := [.present, .absent]
  /-- The flags for enabled and disabled resources. -/
  flags : Option FlagPair := none
  /-- The condition of an existing resource, from what it has and what is
  wanted. -/
  observer : Option (Attributes → Attributes → Condition) := none
  /-- Reshapes what was read, under logical names. -/
  reader : Attributes → Attributes := id
  /-- Reshapes what is to be written, under logical names. -/
  writer : Attributes → Attributes := id
  /-- The follow-ups of targets; the first entry of a target counts. -/
  followUps : List (Target × List FollowUp) := []
  /-- Whether the resource always exists. -/
  singleton : Bool := false
  /-- Why a missing resource cannot be created, where it cannot. -/
  missing : Option String := none
  /-- What the resource is called in messages, instead of its kind. -/
  noun : Option String := none

namespace ResourceKind

/-- Whether a target is supported. -/
def supports (kind : ResourceKind) (target : Target) : Bool :=
  kind.targets.contains target

/-- The follow-ups of a target, in order. -/
def followUpsOf (kind : ResourceKind) (target : Target) : List FollowUp :=
  ((kind.followUps.find? fun entry => entry.1 == target).map Prod.snd).getD []

/-- The refusal of a pair, blamed on the one that the caller gave last. -/
def pairRefused (supplied : List String) (pair : String × String) : Fault :=
  let (a, b) := pair
  let blamed := if supplied.idxOf a < supplied.idxOf b then b else a
  .validation blamed s!"parameters are mutually exclusive: {a}|{b}"

/-- Refuses the first pair that has a property. -/
def refusePair (supplied : List String) (pairs : List (String × String))
    (together : String → String → Bool) : Except Fault Unit :=
  match pairs.find? fun pair => together pair.1 pair.2 with
  | some pair => .error (pairRefused supplied pair)
  | none => .ok ()

/-- Refuses a target that is not supported. -/
def checkTarget (kind : ResourceKind) (target : Target) : Except Fault Unit :=
  if kind.supports target then
    .ok ()
  else
    let supported := ", ".intercalate (kind.targets.map Target.name)
    .error (.validation "state"
      s!"state '{target.name}' is not supported for {kind.name}; expected one of: {supported}")

/-- The want map of caller parameters, checked without touching a device.
Conflicting pairs are judged on what the caller gave, exclusive ones on what
it means. -/
def want (kind : ResourceKind) (partition : String) (params : Attributes)
    (target : Target) : Except Fault Attributes := do
  kind.checkTarget target
  refusePair params.names kind.conflicting fun a b =>
    params.contains a && params.contains b
  let want ← kind.schema.want params partition
  refusePair params.names kind.exclusive fun a b => want.isSet a && want.isSet b
  kind.validate want
  return want

/-- The observed condition of an existing resource. -/
def observe (kind : ResourceKind) (held want : Attributes) : Condition :=
  match kind.observer, kind.flags with
  | some observer, _ => observer held want
  | none, some flags => flags.observe held
  | none, none => .presentEnabled

/-- What a device has, under logical names. -/
def read (kind : ResourceKind) (raw : Attributes) : Attributes :=
  kind.reader (kind.schema.ofWire raw)

/-- What is sent to a device for a logical map. -/
def write (kind : ResourceKind) (logical : Attributes) : Attributes :=
  kind.schema.toWire (kind.writer logical)

/-- The change set from what a device has to what is wanted. -/
def changes (kind : ResourceKind) (want held : Attributes) : Except Fault Attributes :=
  kind.schema.changes kind.updatable kind.dependencies want held

/-- A want map with defaults for the names that it does not set. -/
def filled (kind : ResourceKind) (want : Attributes) : Attributes :=
  (kind.defaults want).entries.foldl
    (fun set (name, value) => if set.contains name then set else set.insert name value) want

/-- Refuses a creation without an attribute that it needs. -/
def checkRequired (kind : ResourceKind) (filled : Attributes) : Except Fault Unit :=
  match kind.requiredOnCreate.find? fun name => !filled.isSet name with
  | some name =>
      let noun := kind.noun.getD kind.name
      .error (.validation name s!"'{name}' is required when creating a new {noun}.")
  | none => .ok ()

/-- The logical map of a creation: in the order of declaration, with defaults,
and without values that ask for clearing. -/
def creation (kind : ResourceKind) (want : Attributes) : Except Fault Attributes := do
  let filled := kind.filled want
  kind.checkRequired filled
  return Attributes.ofList (kind.schema.names.filterMap fun name =>
    ((filled.get? name).filter fun value => !value.isClear).map fun value => (name, value))

end ResourceKind
end DesiredState
