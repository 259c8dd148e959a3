import DesiredState.Catalog.Archive
import DesiredState.Catalog.Globals
import DesiredState.Catalog.LogEndpoint
import DesiredState.Catalog.NatPool
import DesiredState.Catalog.Policy
import DesiredState.Catalog.Provisioning
import DesiredState.Catalog.Virtual
import DesiredState.Catalog.Volume

/-!
# The catalogue of managed resources

A task names an entry of the catalogue.  The entry, with what selects a kind
within it, gives the kind of resource and the key that the resource lives
under.
-/

namespace DesiredState
namespace Catalog

/-- The entries of the catalogue. -/
inductive Entry where
  | natPool
  | logEndpoint
  | globals
  | virtual
  | policy
  | volume
  | archive
  | provisioning
deriving Inhabited, Repr, DecidableEq

namespace Entry

/-- Every entry, in the order in which they are listed. -/
def all : List Entry :=
  [.natPool, .logEndpoint, .globals, .virtual, .policy, .volume, .archive, .provisioning]

/-- The name of an entry in tasks. -/
def name : Entry → String
  | .natPool => "lsn_pool"
  | .logEndpoint => "log_destination"
  | .globals => "network_globals"
  | .virtual => "virtual_server"
  | .policy => "asm_policy"
  | .volume => "software_install"
  | .archive => "ucs"
  | .provisioning => "provision"

/-- The prefix that a task may put before the name of an entry. -/
def optionalPrefix : String := "bigip_"

/-- A name without the optional prefix. -/
def bareName (given : String) : String :=
  let chars := given.toList
  if optionalPrefix.toList.isPrefixOf chars then
    String.ofList (chars.drop optionalPrefix.length)
  else
    given

/-- The entry of a name, with or without the optional prefix. -/
def ofName (given : String) : Except Fault Entry :=
  match all.find? fun entry => entry.name == bareName given with
  | some entry => .ok entry
  | none =>
      let known := ", ".intercalate (all.map name)
      .error (.validation "module" s!"unknown module '{given}'; expected one of: {known}")

end Entry

/-- What selects a kind of resource within an entry. -/
structure Selector where
  /-- The type of a log destination. -/
  variety : Option String := none
  /-- The release of the device software. -/
  version : Option String := none
deriving Inhabited, Repr, DecidableEq

/-- The kind of resource of an entry. -/
def kindOf (entry : Entry) (selector : Selector) : Except Fault ResourceKind :=
  match entry with
  | .natPool => .ok NatPool.kind
  | .logEndpoint =>
      match selector.variety with
      | some name => return LogEndpoint.kind (← LogEndpoint.Variety.ofName name)
      | none => .error (.validation "type" "'type' is required for log_destination.")
  | .globals => .ok Globals.kind
  | .virtual => .ok Virtual.kind
  | .policy => return Policy.kind (← Policy.Generation.ofVersion selector.version)
  | .volume => .ok Volume.kind
  | .archive => .ok Archive.kind
  | .provisioning => .ok Provisioning.kind

/-- The name of the resource of an entry.  The global settings have one name;
provisioning entries are named after the modules that can be provisioned. -/
def resourceName (entry : Entry) (given : Option String) : Except Fault String :=
  match entry, given with
  | .globals, _ => .ok Globals.instanceName
  | .provisioning, some name =>
      if Provisioning.modules.contains name then
        .ok name
      else
        let known := ", ".intercalate Provisioning.modules
        .error (.validation "name"
          s!"'{name}' is not a module that can be provisioned; expected one of: {known}")
  | _, some name =>
      if name == "" then .error (.validation "name" "'name' is required.") else .ok name
  | _, none => .error (.validation "name" "'name' is required.")

/-- The key that the resource of an entry lives under. -/
def keyOf (entry : Entry) (kind : ResourceKind) (partition : String)
    (given : Option String) : Except Fault Key :=
  return ⟨kind.name, partition, ← resourceName entry given⟩

end Catalog
end DesiredState
