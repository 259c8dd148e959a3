import DesiredState.ResourceKind

/-!
# Sample kinds

Three small kinds of resources that show the common patterns: attributes with
a dependency, a pair of flags, and a job that activates.
-/

namespace DesiredState
namespace Catalog
namespace Samples

/-- A pool with a mode, lists, an optional text and a dependency. -/
def pool : ResourceKind where
  name := "ltm/lsn-pool"
  schema := ⟨[
    Field.choice "mode" ["napt", "deterministic", "pba"],
    (Field.referenceList "irules").sentAs "rules",
    Field.list "members",
    (Field.int "client_conn_limit" 0 4294967295).sentAs "clientConnectionLimit",
    (Field.text "description").comparedBy .optionalText,
    (Field.reference "log_profile").sentAs "logProfile",
    (Field.reference "log_publisher").sentAs "logPublisher"]⟩
  dependencies := [⟨"log_publisher", "log_profile", true⟩]
  reportable := ["mode"]

/-- A server that is enabled or disabled by a pair of flags. -/
def server : ResourceKind where
  name := "ltm/virtual"
  schema := ⟨[
    (Field.referenceList "irules").sentAs "rules",
    (Field.list "enabled_vlans").sentAs "vlans",
    Field.list "disabled_vlans"]⟩
  targets := [.present, .absent, .enabled, .disabled]
  exclusive := [("enabled_vlans", "disabled_vlans")]
  flags := some ⟨"enabled", "disabled", true⟩

/-- The condition of a policy: active or not. -/
def observePolicy (held _want : Attributes) : Condition :=
  if held.flag? "active" == some true then .activated else .presentEnabled

/-- A policy that a job activates. -/
def policy : ResourceKind where
  name := "asm/policies"
  schema := ⟨[Field.flag "active", Field.text "description"]⟩
  updatable := ["description"]
  targets := [.present, .absent, .activated]
  observer := some observePolicy
  followUps := [(.activated, [FollowUp.submit .applyPolicy (Wait.every 1000)])]

end Samples
end Catalog
end DesiredState
