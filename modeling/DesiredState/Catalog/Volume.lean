import DesiredState.ResourceKind

/-!
# Boot volumes

The kind `sys/software/volume`.  Installing an image is a job; activating a
volume reboots the device into it, so that wait tolerates an outage.
-/

namespace DesiredState
namespace Catalog
namespace Volume

/-- The name of the kind. -/
def kindName : String := "sys/software/volume"

/-- The attributes of a volume. -/
def schema : Schema where
  fields := [Field.text "image", Field.text "version", Field.text "build"]

/-- Whether a volume has what is wanted under a name; what is not wanted always
fits. -/
def fits (held want : Attributes) (name : String) : Bool :=
  match want.text? name with
  | some wanted => held.text? name == some wanted
  | none => true

/-- The condition of an existing volume.  It only counts as installed when it
has completed and holds the wanted version and build. -/
def observe (held want : Attributes) : Condition :=
  if !fits held want "version" || !fits held want "build" then
    .presentEnabled
  else if held.text? "status" != some "complete" then
    .presentEnabled
  else if held.flag? "active" == some true then
    .activated
  else
    .installed

/-- Installing the wanted image. -/
def install : FollowUp :=
  FollowUp.submit .installSoftware (Wait.every 10000)

/-- Waiting until the device is back from its reboot. -/
def reboot : FollowUp :=
  FollowUp.watch .awaitReboot
    { Wait.every 5000 with tolerance := some Wait.defaultTolerance }

/-- Boot volumes. -/
def kind : ResourceKind where
  name := kindName
  schema := schema
  updatable := []
  reportable := ["image"]
  requiredOnCreate := ["image"]
  targets := [.installed, .activated]
  observer := some observe
  followUps := [(.installed, [install]), (.activated, [install, reboot])]

end Volume
end Catalog
end DesiredState
