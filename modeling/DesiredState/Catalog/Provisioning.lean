import DesiredState.ResourceKind

/-!
# Provisioning levels

The kind `sys/provision`.  There is one entry for every module that can be
provisioned; entries are never created.  After a new level is written the
device settles, and may ask for a reboot.
-/

namespace DesiredState
namespace Catalog
namespace Provisioning

/-- The modules that can be provisioned. -/
def modules : List String := [
  "afm", "am", "apm", "asm", "avr", "cgnat", "fps", "gtm", "ilx", "lc", "ltm", "pem", "sam",
  "swg", "vcmp"]

/-- The attributes of an entry. -/
def schema : Schema where
  fields := [Field.choice "level" ["none", "minimum", "nominal", "dedicated"]]

/-- Refuses a want without a level. -/
def validate (want : Attributes) : Except Fault Unit :=
  if want.isSet "level" then
    .ok ()
  else
    .error (.validation "level" "'level' must be specified.")

/-- Reports whether the device asked for a reboot while it settled. -/
def rebootReport (outcome : Outcome) : Attributes :=
  let reboot := (outcome.observed? "value").bind Value.asText == some "reboot"
  Attributes.empty.insert "reboot_required" (.flag reboot)

/-- Watching the device settle, for a limited number of polls. -/
def settle : FollowUp :=
  { FollowUp.watch .settleProvisioning
      { Wait.every 5000 with budget := .attempts 24, lenient := true } with
    trigger := .afterWrite
    report := some rebootReport }

/-- Provisioning entries. -/
def kind : ResourceKind where
  name := "sys/provision"
  schema := schema
  targets := [.present]
  singleton := true
  validate := validate
  reportable := ["level"]
  followUps := [(.present, [settle])]

end Provisioning
end Catalog
end DesiredState
