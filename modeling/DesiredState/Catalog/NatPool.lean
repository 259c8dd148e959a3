import DesiredState.Catalog.Group
import DesiredState.ResourceKind
import DesiredState.Text.Cut

/-!
# Large-scale NAT pools

The kind `ltm/lsn-pool`.  The device keeps the translation ports as one text
`low-high`, and persistence and port block allocation as nested maps; a caller
sees flat attributes.
-/

namespace DesiredState
namespace Catalog
namespace NatPool

/-- The low end of the port range on creation, when only the high one is given. -/
def defaultLow : Int := 1025

/-- The high end of the port range on creation, when only the low one is given. -/
def defaultHigh : Int := 65535

/-- The wire name of the port range. -/
def rangeWire : String := "translationPortRange"

/-- The attributes of persistence. -/
def persistence : Group where
  wire := "persistence"
  members := [("persistence_mode", "mode"), ("persistence_timeout", "timeout")]

/-- The attributes of port block allocation. -/
def blockAllocation : Group where
  wire := "portBlockAllocation"
  members := [("pba_block_idle_timeout", "blockIdleTimeout"),
    ("pba_block_lifetime", "blockLifetime"), ("pba_block_size", "blockSize"),
    ("pba_client_block_limit", "clientBlockLimit"),
    ("pba_zombie_timeout", "zombieTimeout")]

/-- The attributes of a pool. -/
def schema : Schema where
  fields := [
    (Field.int "client_conn_limit" 0 4294967295).sentAs "clientConnectionLimit",
    (Field.toggle "harpin_mode").sentAs "hairpinMode",
    (Field.toggle "icmp_echo").sentAs "icmpEcho",
    (Field.choice "inbound_connections" ["disabled", "explicit", "automatic"]).sentAs
      "inboundConnections",
    Field.choice "mode" ["deterministic", "pba", "napt"],
    Field.choice "persistence_mode" ["address", "address-port", "none"],
    Field.int "persistence_timeout" 0 31536000,
    (Field.toggle "route_advertisement").sentAs "routeAdvertisement",
    Field.int "pba_block_idle_timeout" 0 4294967295,
    Field.int "pba_block_lifetime" 0 4294967295,
    Field.int "pba_block_size" 0 65535,
    Field.int "pba_client_block_limit" 0 65535,
    Field.int "pba_zombie_timeout" 0 4294967295,
    (Field.port "port_range_low").comparedBy (.paired "port_range_high"),
    (Field.port "port_range_high").comparedBy (.paired "port_range_low"),
    (Field.list "egress_interfaces").sentAs "egressInterfaces",
    Field.list "members",
    (Field.list "backup_members").sentAs "backupMembers",
    (Field.reference "log_profile").sentAs "logProfile",
    (Field.reference "log_publisher").sentAs "logPublisher",
    (Field.text "description").comparedBy .optionalText]

/-- Refuses a port range whose ends are both wanted and cross. -/
def validate (want : Attributes) : Except Fault Unit :=
  match want.int? "port_range_low", want.int? "port_range_high" with
  | some low, some high =>
      if high < low then
        .error (.validation "port_range_low"
          s!"The 'port_range_low' value: {low} is lower than 'port_range_high' value: {high}")
      else
        .ok ()
  | _, _ => .ok ()

/-- The two ends of a port range, with blanks around them allowed. -/
def splitRange (range : String) : Option (Int × Int) := do
  -- the first dash counts, so a low end with a sign is no number
  let (low, high) ← Text.cutFirst '-' range
  return (← Text.readInt64 (Text.trim low), ← Text.readInt64 (Text.trim high))

/-- A port range as the device keeps it. -/
def joinRange (low high : Int) : String :=
  toString low ++ "-" ++ toString high

/-- Splits the port range of a device into its two ends. -/
def readRange (held : Attributes) : Attributes :=
  let rest := held.erase rangeWire
  match (held.text? rangeWire).bind splitRange with
  | some (low, high) =>
      (rest.insert "port_range_low" (.int low)).insert "port_range_high" (.int high)
  | none => rest

/-- Joins the two ends of the port range; a missing end takes its default. -/
def writeRange (body : Attributes) : Attributes :=
  let rest := (body.erase "port_range_low").erase "port_range_high"
  match body.int? "port_range_low", body.int? "port_range_high" with
  | none, none => rest
  | low, high =>
      rest.insert rangeWire
        (.text (joinRange (low.getD defaultLow) (high.getD defaultHigh)))

/-- The flat attributes of a stored pool. -/
def read (held : Attributes) : Attributes :=
  readRange (blockAllocation.spread (persistence.spread held))

/-- The stored form of flat attributes. -/
def write (body : Attributes) : Attributes :=
  writeRange (blockAllocation.gather (persistence.gather body))

/-- Large-scale NAT pools. -/
def kind : ResourceKind where
  name := "ltm/lsn-pool"
  schema := schema
  dependencies := [⟨"log_publisher", "log_profile", true⟩]
  validate := validate
  reader := read
  writer := write

end NatPool
end Catalog
end DesiredState
