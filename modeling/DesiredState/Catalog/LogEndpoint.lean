import DesiredState.ResourceKind

/-!
# Log destinations

The kinds `sys/log-config/destination/…`.  Each type of destination has an
endpoint and attributes of its own.  The device never reports the type; it is
known from the endpoint.
-/

namespace DesiredState
namespace Catalog
namespace LogEndpoint

/-- The types of log destinations. -/
inductive Variety where
  | remoteSyslog
  | remoteHighSpeedLog
  | arcsight
  | splunk
  | managementPort
  | ipfix
deriving Inhabited, Repr, DecidableEq

namespace Variety

/-- Every type, in the order of declaration. -/
def all : List Variety :=
  [.remoteSyslog, .remoteHighSpeedLog, .arcsight, .splunk, .managementPort, .ipfix]

/-- The name of a type. -/
def name : Variety → String
  | .remoteSyslog => "remote-syslog"
  | .remoteHighSpeedLog => "remote-high-speed-log"
  | .arcsight => "arcsight"
  | .splunk => "splunk"
  | .managementPort => "management-port"
  | .ipfix => "ipfix"

/-- The type of a name. -/
def ofName (name : String) : Except Fault Variety :=
  match all.find? fun variety => variety.name == name with
  | some variety => .ok variety
  | none => .error (.validation "type" "Unknown type specified.")

/-- The kind of resource at the endpoint of a type. -/
def kindName (variety : Variety) : String :=
  "sys/log-config/destination/" ++ variety.name

end Variety

/-- The fields that every type has. -/
def commonFields : List Field := [
  (Field.choice "type" (Variety.all.map Variety.name)).comparedBy .immutable,
  (Field.text "description").comparedBy .optionalText]

/-- The fields of one type. -/
def ownFields : Variety → List Field
  | .remoteSyslog => [
      (Field.reference "forward_to").sentAs "remoteHighSpeedLog",
      ((Field.choice "syslog_format" ["rfc5424", "rfc3164", "legacy-bigip"]).sentAs
        "format").spelled [("syslog", "rfc5424"), ("bsd-syslog", "rfc3164")]]
  | .remoteHighSpeedLog => [
      (Field.reference "pool").sentAs "poolName",
      Field.choice "protocol" ["tcp", "udp"],
      Field.choice "distribution" ["adaptive", "balanced", "replicated"]]
  | .arcsight | .splunk => [
      (Field.reference "forward_to").sentAs "forwardTo",
      (Field.reference "pool").sentAs "poolName"]
  | .managementPort => [
      (Field.text "address").sentAs "ipAddress",
      Field.port "port",
      Field.choice "protocol" ["tcp", "udp"]]
  | .ipfix => [
      (Field.choice "protocol" ["ipfix", "netflow-9"]).sentAs "protocolVersion",
      (Field.reference "pool").sentAs "poolName",
      (Field.reference "transport_profile").sentAs "transportProfile",
      (Field.reference "server_ssl_profile").sentAs "serversslProfile",
      (Field.int "template_delete_delay" 0 4294967295).sentAs "templateDeleteDelay",
      (Field.int "template_retransmit_interval" 0 4294967295).sentAs
        "templateRetransmitInterval"]

/-- The attributes of a destination. -/
def schema (variety : Variety) : Schema :=
  ⟨commonFields ++ ownFields variety⟩

/-- The dependencies between the attributes of a destination. -/
def dependencies : Variety → List Dependency
  | .arcsight | .splunk => [⟨"forward_to", "pool", true⟩]
  | _ => []

/-- What the creation of a destination needs. -/
def requiredOnCreate : Variety → List String
  | .remoteSyslog => ["forward_to"]
  | .remoteHighSpeedLog => ["pool"]
  | .arcsight | .splunk => ["forward_to"]
  | .managementPort => ["address", "port"]
  | .ipfix => ["protocol", "pool", "transport_profile"]

/-- What the creation of a destination falls back on. -/
def defaults : Variety → Attributes
  | .remoteSyslog => ⟨[("syslog_format", .text "rfc3164")]⟩
  | .remoteHighSpeedLog => ⟨[("protocol", .text "tcp"), ("distribution", .text "adaptive")]⟩
  | _ => .empty

/-- Log destinations of one type. -/
def kind (variety : Variety) : ResourceKind where
  name := variety.kindName
  schema := schema variety
  dependencies := dependencies variety
  requiredOnCreate := requiredOnCreate variety
  defaults := fun _ => defaults variety
  reader := fun held => held.insert "type" (.text variety.name)
  writer := fun body => body.erase "type"
  noun := some (variety.name ++ " destination")

end LogEndpoint
end Catalog
end DesiredState
