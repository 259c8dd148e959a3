import DesiredState.Catalog.Group
import DesiredState.ResourceKind
import DesiredState.Text.Cut

/-!
# Global network settings

The kind `net/globals`: spanning tree, multicast, traffic distribution, LLDP
and the default port lockdown of self IP addresses.  The settings always
exist, under one name, and each group is a nested map on the device.
-/

namespace DesiredState
namespace Catalog
namespace Globals

/-- The name of the single resource. -/
def instanceName : String := "globals"

/-- The groups of settings.  LLDP is switched by two flags on the device,
`enabled` and `disabled`, of which one is set. -/
def groups : List Group := [
  { wire := "stp"
    members := [("stp_config_name", "configName"),
      ("stp_config_revision", "configRevision"), ("stp_description", "description"),
      ("stp_fwd_delay", "fwdDelay"), ("stp_hello_time", "helloTime"),
      ("stp_max_age", "maxAge"), ("stp_max_hops", "maxHops"), ("stp_mode", "mode"),
      ("stp_transmit_hold", "transmitHold")] },
  { wire := "multicast"
    members := [("mcast_max_pending_packets", "maxPendingPackets"),
      ("mcast_max_pending_routes", "maxPendingRoutes"),
      ("mcast_rate_limit", "rateLimit"),
      ("mcast_route_lookup_timeout", "routeLookupTimeout")] },
  { wire := "dag"
    members := [("dag_round_robin_mode", "roundRobinMode"),
      ("dag_ipv6_prefix_len", "dagIpv6PrefixLen"), ("dag_icmp_hash", "icmpHash")] },
  { wire := "lldp"
    members := [("lldp_enabled", "enabled"), ("lldp_disabled", "disabled"),
      ("lldp_max_neighbors_per_port", "maxNeighborsPerPort"),
      ("lldp_reinit_delay", "reinitDelay"), ("lldp_tx_delay", "txDelay"),
      ("lldp_tx_hold", "txHold"), ("lldp_tx_interval", "txInterval")] },
  { wire := "self_allow"
    members := [("self_allow_defaults", "defaults")] }]

/-- The attributes of the settings. -/
def schema : Schema where
  fields := [
    (Field.text "stp_config_name").atMost 32,
    Field.int "stp_config_revision" 0 65535,
    Field.text "stp_description",
    Field.int "stp_fwd_delay" 4 30,
    Field.int "stp_hello_time" 1 10,
    Field.int "stp_max_age" 6 40,
    Field.int "stp_max_hops" 1 255,
    Field.choice "stp_mode" ["disabled", "mstp", "passthru", "rstp", "stp"],
    Field.int "stp_transmit_hold" 1 10,
    Field.int "mcast_max_pending_packets" 0 4294967295,
    Field.int "mcast_max_pending_routes" 0 4294967295,
    Field.toggle "mcast_rate_limit",
    Field.int "mcast_route_lookup_timeout" 0 4294967295,
    Field.choice "dag_round_robin_mode" ["global", "local"],
    Field.int "dag_ipv6_prefix_len" 0 128,
    Field.choice "dag_icmp_hash" ["icmp", "ipicmp"],
    Field.flag "lldp_enabled",
    Field.int "lldp_max_neighbors_per_port" 0 65535,
    Field.int "lldp_reinit_delay" 0 65535,
    Field.int "lldp_tx_delay" 0 65535,
    Field.int "lldp_tx_hold" 0 65535,
    Field.int "lldp_tx_interval" 0 65535,
    Field.flag "self_allow_all",
    { name := "self_allow_defaults", shape := .keywordOrList ["all", "none"] }]

/-- Whether an entry of the port lockdown is a service with a port number. -/
def isPortEntry (entry : String) : Bool :=
  match (Text.cutFirst ':' entry).bind fun cut => Text.readInt64 cut.2 with
  | some port => decide (0 ≤ port) && decide (port ≤ 65535)
  | none => false

/-- Refuses a port lockdown with an entry that has no valid port. -/
def validate (want : Attributes) : Except Fault Unit :=
  if ((want.list? "self_allow_defaults").getD []).all isPortEntry then
    .ok ()
  else
    .error (.validation "self_allow_defaults"
      "Valid self_allow_defaults port must be in range 0 - 65535.")

/-- Tells from the port lockdown whether all or no ports are allowed. -/
def readAllowAll (held : Attributes) : Attributes :=
  match held.text? "self_allow_defaults" with
  | some "all" => held.insert "self_allow_all" (.flag true)
  | some "none" => held.insert "self_allow_all" (.flag false)
  | _ => held

/-- Joins the two flags of LLDP into one. -/
def readLldp (held : Attributes) : Attributes :=
  let rest := held.erase "lldp_disabled"
  if held.flag? "lldp_disabled" == some true then
    rest.insert "lldp_enabled" (.flag false)
  else
    rest

/-- The flat attributes of the stored settings. -/
def read (held : Attributes) : Attributes :=
  readLldp (readAllowAll (groups.foldl (fun set group => group.spread set) held))

/-- Writes the wish for all or no ports as a port lockdown, unless one is
wanted already. -/
def writeAllowAll (body : Attributes) : Attributes :=
  let rest := body.erase "self_allow_all"
  match body.flag? "self_allow_all" with
  | some all =>
      if rest.contains "self_allow_defaults" then
        rest
      else
        rest.insert "self_allow_defaults" (.text (if all then "all" else "none"))
  | none => rest

/-- Splits the one flag of LLDP into the flag that is to be set. -/
def writeLldp (body : Attributes) : Attributes :=
  let rest := body.erase "lldp_enabled"
  match body.flag? "lldp_enabled" with
  -- one flag is set, and the other one is not unset
  | some true => rest.insert "lldp_enabled" (.flag true)
  | some false => rest.insert "lldp_disabled" (.flag true)
  | none => rest

/-- The stored form of flat attributes. -/
def write (body : Attributes) : Attributes :=
  groups.foldl (fun set group => group.gather set) (writeLldp (writeAllowAll body))

/-- Global network settings. -/
def kind : ResourceKind where
  name := "net/globals"
  schema := schema
  targets := [.present]
  singleton := true
  conflicting := [("self_allow_all", "self_allow_defaults")]
  validate := validate
  reader := read
  writer := write

end Globals
end Catalog
end DesiredState
