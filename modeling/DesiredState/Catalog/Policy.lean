import DesiredState.ResourceKind
import DesiredState.Text.Decimal

/-!
# Security policies

The kind `asm/policies`.  Activating a policy is a job.  Releases before
13.0.0 do not have the newer policy templates.
-/

namespace DesiredState
namespace Catalog
namespace Policy

/-- The policy templates. -/
def templates : List String := [
  "ActiveSync v1.0 v2.0 (http)",
  "ActiveSync v1.0 v2.0 (https)",
  "Comprehensive",
  "Drupal",
  "Fundamental",
  "Joomla",
  "LotusDomino 6.5 (http)",
  "LotusDomino 6.5 (https)",
  "OWA Exchange 2003 (http)",
  "OWA Exchange 2003 (https)",
  "OWA Exchange 2003 with ActiveSync (http)",
  "OWA Exchange 2003 with ActiveSync (https)",
  "OWA Exchange 2007 (http)",
  "OWA Exchange 2007 (https)",
  "OWA Exchange 2007 with ActiveSync (http)",
  "OWA Exchange 2007 with ActiveSync (https)",
  "OWA Exchange 2010 (http)",
  "OWA Exchange 2010 (https)",
  "Oracle 10g Portal (http)",
  "Oracle 10g Portal (https)",
  "Oracle Applications 11i (http)",
  "Oracle Applications 11i (https)",
  "PeopleSoft Portal 9 (http)",
  "PeopleSoft Portal 9 (https)",
  "Rapid Deployment Policy",
  "SAP NetWeaver 7 (http)",
  "SAP NetWeaver 7 (https)",
  "SharePoint 2003 (http)",
  "SharePoint 2003 (https)",
  "SharePoint 2007 (http)",
  "SharePoint 2007 (https)",
  "SharePoint 2010 (http)",
  "SharePoint 2010 (https)",
  "Vulnerability Assessment Baseline",
  "Wordpress"]

/-- The templates that only exist from release 13.0.0 on. -/
def newerTemplates : List String := [
  "Comprehensive",
  "Drupal",
  "Fundamental",
  "Joomla",
  "Vulnerability Assessment Baseline",
  "Wordpress"]

/-- The generations of the policy schema. -/
inductive Generation where
  /-- Before release 13.0.0. -/
  | first
  /-- From release 13.0.0 on. -/
  | second
deriving Inhabited, Repr, DecidableEq

/-- A release of the device software. -/
structure Release where
  major : Nat
  minor : Nat
  patch : Nat
deriving Inhabited, Repr, DecidableEq

namespace Release

/-- The number of a release part. -/
def part? (chars : List Char) : Option Nat :=
  Text.unsigned? Text.word32Max chars

/-- The release that a text spells: one to three numbers with points between
them.  The patch level ends with its digits, and the rest is ignored. -/
def ofText? (content : String) : Option Release :=
  match (Text.trimChars content.toList).splitOn '.' with
  | [major] => return ⟨← part? major, 0, 0⟩
  | [major, minor] => return ⟨← part? major, ← part? minor, 0⟩
  | major :: minor :: patch :: _ =>
      return ⟨← part? major, ← part? minor, ← part? (patch.takeWhile Char.isDigit)⟩
  | [] => none

end Release

namespace Generation

/-- The generation of a release; without a release the current one. -/
def ofVersion (version : Option String) : Except Fault Generation :=
  match version with
  | none => .ok .second
  | some content =>
      match Release.ofText? content with
      | some release => .ok (if release.major < 13 then .first else .second)
      | none => .error (.validation "version" s!"'{content}' is not a valid version.")

end Generation

/-- The characters of a template's code: letters and digits in upper case, and
one underscore before each run of them.  `gap` says whether an underscore is
due. -/
def codeChars : Bool → List Char → List Char
  | _, [] => []
  | gap, c :: rest =>
      if c.isAlphanum then
        if gap then
          '_' :: c.toUpper :: codeChars false rest
        else
          c.toUpper :: codeChars false rest
      else
        codeChars true rest

/-- The code by which the device knows a template. -/
def templateCode (template : String) : String :=
  if template == "Rapid Deployment Policy" then
    "POLICY_TEMPLATE_RAPID_DEPLOYMENT"
  else if template == "Vulnerability Assessment Baseline" then
    "POLICY_TEMPLATE_VULNERABILITY_ASSESSMENT"
  else
    "POLICY_TEMPLATE" ++ String.ofList (codeChars true template.toList)

/-- The attributes of a policy. -/
def schema : Schema where
  fields := [
    (Field.text "description").comparedBy .optionalText,
    Field.choice "template" templates]

/-- The condition of an existing policy: active or not. -/
def observe (held _want : Attributes) : Condition :=
  if held.flag? "active" == some true then .activated else .presentEnabled

/-- Refuses the newer templates for the first generation. -/
def validate (generation : Generation) (want : Attributes) : Except Fault Unit :=
  if generation = .first ∧ ((want.text? "template").any newerTemplates.contains) = true then
    .error (.validation "template"
      "The specified template is not valid for this version of BIG-IP.")
  else
    .ok ()

/-- Sends a template by its code. -/
def write (body : Attributes) : Attributes :=
  match body.text? "template" with
  | some template => body.insert "template" (.text (templateCode template))
  | none => body

/-- Security policies. -/
def kind (generation : Generation) : ResourceKind where
  name := "asm/policies"
  schema := schema
  updatable := ["description"]
  targets := [.present, .absent, .activated]
  observer := some observe
  validate := validate generation
  writer := write
  followUps := [(.activated, [FollowUp.submit .applyPolicy (Wait.every 1000)])]

end Policy
end Catalog
end DesiredState
