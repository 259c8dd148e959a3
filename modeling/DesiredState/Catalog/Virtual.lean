import DesiredState.ResourceKind
import DesiredState.Text.Cut

/-!
# Virtual servers

The kind `ltm/virtual`.  The device writes address and port of a destination
as one text and keeps one list of VLANs with two switches that say what the
list means.
-/

namespace DesiredState
namespace Catalog
namespace Virtual

/-- The attributes of a virtual server. -/
def schema : Schema where
  fields := [
    (Field.text "description").comparedBy .optionalText,
    (Field.reference "destination").comparedBy (.paired "port"),
    (Field.port "port").comparedBy (.paired "destination"),
    Field.reference "pool",
    (Field.referenceList "irules").sentAs "rules",
    Field.list "enabled_vlans",
    Field.list "disabled_vlans",
    (Field.int "connection_limit" 0 4294967295).sentAs "connectionLimit"]

/-- Refuses a port without a destination. -/
def validate (want : Attributes) : Except Fault Unit :=
  if want.contains "port" && !want.isSet "destination" then
    .error (.validation "port" "'port' must be specified together with 'destination'.")
  else
    .ok ()

/-- An address and a port as the device writes them.  A host with a colon in it
is separated from its port by a point. -/
def joinPort (address : String) (port : Int) : String :=
  let host := Text.lastSegment '/' address.toList
  if host.contains ':' then
    address ++ "." ++ toString port
  else
    address ++ ":" ++ toString port

/-- The address and the port of a destination.  A host with more than one
colon is separated from its port by a point. -/
def splitPort (destination : String) : Option (String × Int) := do
  let host := Text.lastSegment '/' destination.toList
  -- two colons are those of an address with colons of its own
  let separator := if 1 < host.count ':' then '.' else ':'
  let (address, port) ← Text.cutLast separator destination
  return (address, ← Text.readInt64 port)

/-- Splits the destination of a device into address and port. -/
def readDestination (held : Attributes) : Attributes :=
  match (held.text? "destination").bind splitPort with
  | some (address, port) =>
      (held.insert "destination" (.text address)).insert "port" (.int port)
  | none => held

/-- Names the list of VLANs after what the switches say it means. -/
def readVlans (held : Attributes) : Attributes :=
  match held.get? "vlans" with
  | some vlans =>
      let rest := held.erase "vlans"
      if rest.flag? "vlansDisabled" == some true then
        rest.insert "disabled_vlans" vlans
      else
        rest.insert "enabled_vlans" vlans
  | none => held

/-- The flat attributes of a stored virtual server. -/
def read (held : Attributes) : Attributes :=
  readVlans (readDestination held)

/-- Joins address and port into a destination; a port alone is dropped. -/
def writeDestination (body : Attributes) : Attributes :=
  let rest := body.erase "port"
  match rest.text? "destination", body.int? "port" with
  | some address, some port => rest.insert "destination" (.text (joinPort address port))
  | _, _ => rest

/-- Sends a list of VLANs with the switch that says what it means. -/
def writeVlans (body : Attributes) : Attributes :=
  match body.get? "enabled_vlans" with
  | some vlans =>
      -- the other switch is left as it is stored
      ((body.erase "enabled_vlans").insert "vlans" vlans).insert "vlansEnabled" (.flag true)
  | none =>
      match body.get? "disabled_vlans" with
      | some vlans =>
          ((body.erase "disabled_vlans").insert "vlans" vlans).insert "vlansDisabled"
            (.flag true)
      | none => body

/-- The stored form of flat attributes. -/
def write (body : Attributes) : Attributes :=
  writeVlans (writeDestination body)

/-- Virtual servers. -/
def kind : ResourceKind where
  name := "ltm/virtual"
  schema := schema
  targets := [.present, .absent, .enabled, .disabled]
  exclusive := [("enabled_vlans", "disabled_vlans")]
  flags := some ⟨"enabled", "disabled", true⟩
  requiredOnCreate := ["destination"]
  validate := validate
  reader := read
  writer := write

end Virtual
end Catalog
end DesiredState
