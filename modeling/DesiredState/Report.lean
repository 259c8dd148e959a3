import DesiredState.Fault
import DesiredState.Json.Encoding

/-!
# Reports

A pass hands back a report when it succeeds: whether anything changed, and the
attributes worth reporting.  When it fails it hands back a setback: the fault,
and whether anything had changed by then.  Both are printed as indented JSON.
-/

namespace DesiredState

/-- What a successful pass hands back. -/
structure Report where
  /-- Whether the device changed, or would have. -/
  changed : Bool
  attributes : Attributes
deriving Inhabited, Repr

namespace Report

/-- The attributes to report: the reportable names that are wanted, with the
changes set over them. -/
def attributesOf (want : Attributes) (reportable : List String)
    (changes : Attributes) : Attributes :=
  (want.pick reportable).update changes

/-- Adds or replaces a reported attribute. -/
def insert (report : Report) (name : String) (value : Value) : Report :=
  { report with attributes := report.attributes.insert name value }

/-- A report as a JSON object: the verdict first, then the attributes. -/
def toJson (report : Report) : Json :=
  .object (("changed", .flag report.changed) :: Value.membersOf report.attributes.entries)

/-- A report as it is printed. -/
def render (report : Report) : String :=
  report.toJson.pretty

end Report

/-- What a failed pass hands back. -/
structure Setback where
  /-- Whether the device had been changed before the fault. -/
  changed : Bool
  /-- Why the pass could not go on. -/
  fault : Fault
deriving Inhabited, Repr, DecidableEq

namespace Setback

/-- A setback as it is printed. -/
def render (setback : Setback) : String :=
  Json.pretty (.object [("changed", .flag setback.changed), ("failed", .flag true),
    ("msg", .text setback.fault.message)])

end Setback
end DesiredState
