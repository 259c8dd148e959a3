import DesiredState.ResourceKind
import DesiredState.Text.Blank

/-!
# Configuration archives

The kind `sys/ucs`.  A present archive is only stored; an installed one is
restored, which restarts the management daemons.  The restore is polled
through the outage, and then the status of the configuration daemon is watched
until it reports success four times in a row.
-/

namespace DesiredState
namespace Catalog
namespace Archive

/-- Whether a text starts with a label, some blanks and a word. -/
def startsWithEntry (label word : String) (chars : List Char) : Bool :=
  label.toList.isPrefixOf chars &&
    (let rest := chars.drop label.length
     rest.head?.any Text.isBlank && word.toList.isPrefixOf (rest.dropWhile Text.isBlank))

/-- Whether a label, some blanks and a word stand somewhere in a text. -/
def hasEntry (label word : String) : List Char → Bool
  | [] => startsWithEntry label word []
  | c :: rest => startsWithEntry label word (c :: rest) || hasEntry label word rest

/-- The label of the load status. -/
def loadStatus : String := "Last Configuration Load Status"

/-- What is said of a reload that failed, before what the daemon shows. -/
def reloadFailed : String :=
  "Failed to reload the configuration. " ++
    "This may be due to a cross-version incompatibility. "

/-- How far a reload has come, by the status that the configuration daemon
shows. -/
def reloadProgress (output : String) : Progress :=
  let chars := output.toList
  if hasEntry loadStatus "base-config-load-failed" chars then
    .failed (reloadFailed ++ output)
  else if hasEntry loadStatus "full-config-load-succeed" chars &&
      hasEntry "Running Phase" "running" chars then
    .completed
  else
    .pending

/-- The flags of a restore, each with the option that it turns into. -/
def options : List (String × String) := [
  ("include_chassis_level_config", "include-chassis-level-config"),
  ("no_license", "no-license"),
  ("no_platform_check", "no-platform-check"),
  ("reset_trust", "reset-trust")]

/-- The attributes of an archive. -/
def schema : Schema where
  fields := [
    Field.flag "include_chassis_level_config",
    Field.flag "no_license",
    Field.flag "no_platform_check",
    Field.text "passphrase",
    Field.flag "reset_trust"]

/-- The condition of an existing archive.  A restore leaves nothing on it to
compare with, so it is never observed as installed. -/
def observe (_held _want : Attributes) : Condition := .presentEnabled

/-- The options of a restore, in order, the passphrase last. -/
def optionsOf (body : Attributes) : List String :=
  let flags := options.filterMap fun (name, option) =>
    if body.flag? name == some true then some option else none
  let passphrase := (body.get? "passphrase").map fun value => "passphrase " ++ value.display
  flags ++ passphrase.toList

/-- Sends the flags and the passphrase as one list of options. -/
def write (body : Attributes) : Attributes :=
  let rest := (options.foldl (fun set option => set.erase option.1) body).erase "passphrase"
  match optionsOf body with
  | [] => rest
  | found => rest.insert "options" (.list found)

/-- Restoring an archive. -/
def restore : FollowUp :=
  FollowUp.submit .restoreConfig
    { Wait.every 3000 with initialDelay := 5000, tolerance := some Wait.defaultTolerance }

/-- Watching the configuration daemon reload. -/
def reload : FollowUp :=
  FollowUp.watch .configReload
    { (Wait.every 3000).confirmedBy 4 with tolerance := some Wait.defaultTolerance }

/-- Configuration archives. -/
def kind : ResourceKind where
  name := "sys/ucs"
  schema := schema
  updatable := []
  targets := [.present, .absent, .installed]
  observer := some observe
  writer := write
  followUps := [(.installed, [restore, reload])]

end Archive
end Catalog
end DesiredState
