import DesiredState.Aliases
import DesiredState.Schema.Normal

/-!
# Schemas

A schema is the closed list of fields of a resource.  It turns caller
parameters into a *want* map, in the order of declaration and with normal
values only, and turns logical names into wire names and back.
-/

namespace DesiredState

/-- The declared fields of a resource, in order. -/
structure Schema where
  /-- The fields, in the order of declaration. -/
  fields : List Field
deriving Inhabited, Repr

namespace Schema

/-- The field of a logical name. -/
def field? (schema : Schema) (name : String) : Option Field :=
  schema.fields.find? fun field => field.name == name

/-- The comparison of a logical name; an undeclared one is compared exactly. -/
def comparison (schema : Schema) (name : String) : Comparison :=
  ((schema.field? name).map Field.comparison).getD .exact

/-- The declared logical names, in order. -/
def names (schema : Schema) : List String :=
  schema.fields.map Field.name

/-- The table of the wire names that differ from their logical names. -/
def aliases (schema : Schema) : Aliases :=
  ⟨schema.fields.filterMap fun field => field.wire.map fun wire => (wire, field.name)⟩

/-- The normal value of one field, with its name, if the caller gave one. -/
def wanted (params : Attributes) (partition : String) (field : Field) :
    Except Fault (Option (String × Value)) :=
  match params.get? field.name with
  | none => .ok none
  | some value => return some (field.name, ← field.normalize partition value)

/-- The want map of some caller parameters: undeclared names are refused, and
the rest is brought to normal form in the order of declaration. -/
def want (schema : Schema) (params : Attributes) (partition : String) :
    Except Fault Attributes :=
  match params.names.find? fun name => (schema.field? name).isNone with
  | some unknown =>
      .error (.validation unknown "unsupported attribute for this resource.")
  | none => do
      let pairs ← schema.fields.mapM (wanted params partition)
      return Attributes.ofList (pairs.filterMap id)

/-- One reported attribute under its logical name and in its declared shape. -/
def logicalEntry (schema : Schema) (entry : String × Value) : String × Value :=
  let logical := schema.aliases.toLogical entry.1
  match schema.field? logical with
  | some field => (logical, field.coerce entry.2)
  | none => (logical, entry.2)

/-- The logical map of what a device reports. -/
def ofWire (schema : Schema) (raw : Attributes) : Attributes :=
  Attributes.ofList (raw.entries.map schema.logicalEntry)

/-- The wire map of a logical one. -/
def toWire (schema : Schema) (logical : Attributes) : Attributes :=
  Attributes.ofList (logical.entries.map fun (name, value) =>
    (schema.aliases.toWire name, value))

end Schema
end DesiredState
