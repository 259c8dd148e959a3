/-!
# Lifecycle states

A caller asks for a *target*, a device is observed in a *condition*.  A
condition satisfies a target or does not, and a target may fix the value of an
enabled flag.
-/

namespace DesiredState

/-- The lifecycle state that a caller asks for. -/
inductive Target where
  | absent
  /-- The resource must exist, in any condition. -/
  | present
  | enabled
  | disabled
  | activated
  /-- The resource must be installed, active or not. -/
  | installed
deriving Inhabited, Repr, DecidableEq

/-- The lifecycle state observed on a device. -/
inductive Condition where
  | absent
  /-- There and enabled, or without an enabled flag. -/
  | presentEnabled
  | presentDisabled
  | activated
  /-- Installed and not active. -/
  | installed
deriving Inhabited, Repr, DecidableEq

namespace Target

/-- Every target, in the order of declaration. -/
def all : List Target :=
  [.absent, .present, .enabled, .disabled, .activated, .installed]

/-- The name of a target. -/
def name : Target → String
  | .absent => "absent"
  | .present => "present"
  | .enabled => "enabled"
  | .disabled => "disabled"
  | .activated => "activated"
  | .installed => "installed"

/-- The target of a name. -/
def ofName? (name : String) : Option Target :=
  all.find? fun target => target.name == name

/-- What is said of a name that is no target's. -/
def unknown (name : String) : String :=
  s!"unknown state '{name}'"

/-- Whether an observed condition satisfies a target. -/
def satisfiedBy (target : Target) (condition : Condition) : Bool :=
  match target with
  | .absent => condition == .absent
  | .present => condition != .absent
  | .enabled => condition == .presentEnabled
  | .disabled => condition == .presentDisabled
  | .activated => condition == .activated
  | .installed => condition == .installed || condition == .activated

/-- The enabled flag that a target asks for, if it asks for one. -/
def enabledFlag : Target → Option Bool
  | .enabled => some true
  | .disabled => some false
  | _ => none

end Target

namespace Condition

/-- Every condition, in the order of declaration. -/
def all : List Condition :=
  [.absent, .presentEnabled, .presentDisabled, .activated, .installed]

/-- The name of a condition. -/
def name : Condition → String
  | .absent => "absent"
  | .presentEnabled => "present_enabled"
  | .presentDisabled => "present_disabled"
  | .activated => "activated"
  | .installed => "installed"

/-- The condition of a name. -/
def ofName? (name : String) : Option Condition :=
  all.find? fun condition => condition.name == name

end Condition
end DesiredState
