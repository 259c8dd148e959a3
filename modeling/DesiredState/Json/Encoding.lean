import DesiredState.Job
import DesiredState.Json.Reader
import DesiredState.Key
import DesiredState.Lifecycle
import DesiredState.Snapshot
import DesiredState.Text.Decimal

/-!
# Attribute maps and names as JSON

How values, maps, keys, lifecycle states, jobs and snapshots are written as
JSON documents and read back.  Reading is stricter than the grammar: a value
is no number with a fraction, no number beyond 64 bits and no mixed list, and
a `null` under a name sets nothing.
-/

namespace DesiredState

namespace Value

mutual

/-- A value as a JSON document. -/
def toJson : Value → Json
  | .flag on => .flag on
  | .int number => .int number
  | .text content => .text content
  | .list items => .array (items.map Json.text)
  | .nested entries => .object (membersOf entries)

/-- The entries of a map as the members of an object, in order. -/
def membersOf : List (String × Value) → List (String × Json)
  | [] => []
  | (name, value) :: rest => (name, toJson value) :: membersOf rest

end

/-- The text of a JSON string. -/
def stringOf? : Json → Option String
  | .text content => some content
  | _ => none

mutual

/-- The value that a document holds.  `null` is no value. -/
def ofJson? : Json → Option Value
  | .flag on => some (.flag on)
  | .int number => if Text.fitsInt64 number then some (.int number) else none
  | .text content => some (.text content)
  | .array items => (items.mapM stringOf?).map Value.list
  | .object members => (storeMembers [] members).map Value.nested
  | _ => none

/-- Stores the members of an object one after the other over some entries; a
`null` member stores nothing. -/
def storeMembers (entries : List (String × Value)) :
    List (String × Json) → Option (List (String × Value))
  | [] => some entries
  | (_, .null) :: rest => storeMembers entries rest
  | (name, document) :: rest =>
      match ofJson? document with
      | some value => storeMembers (Entries.put name value entries) rest
      | none => none

end

end Value

namespace Attributes

/-- A map as a JSON object, in the order of the map. -/
def toJson (set : Attributes) : Json :=
  .object (Value.membersOf set.entries)

/-- The map that a JSON object holds. -/
def ofJson? : Json → Option Attributes
  | .object members => (Value.storeMembers [] members).map Attributes.mk
  | _ => none

end Attributes

namespace Snapshot

/-- A snapshot as a JSON object, in the order of its keys. -/
def toJson (snapshot : Snapshot) : Json :=
  .object (snapshot.resources.map fun (key, resource) => (key, resource.toJson))

/-- The snapshot that a JSON object holds; of a repeated key the last counts. -/
def ofJson? : Json → Option Snapshot
  | .object members =>
      (members.mapM fun (member : String × Json) =>
        (Attributes.ofJson? member.2).map fun resource => (member.1, resource)).map ofList
  | _ => none

/-- The snapshot that a JSON text holds. -/
def ofText? (source : String) : Option Snapshot :=
  (Json.read? source).bind ofJson?

end Snapshot

namespace Json

/-- The document under one field of a record, if the record is an object that
has the field at most once. -/
def field? (members : List (String × Json)) (name : String) : Option (Option Json) :=
  match members.filter fun member => member.1 == name with
  | [] => some none
  | [member] => some (some member.2)
  | _ => none

/-- The documents under the fields of a record, in order; `none` inside where a
field is missing.  A record is an object, whose other members are ignored, or
an array of the first fields in order. -/
def fields? (names : List String) : Json → Option (List (Option Json))
  | .object members => names.mapM (field? members)
  | .array items =>
      if items.length ≤ names.length then
        some (items.map some ++ List.replicate (names.length - items.length) none)
      else
        none
  | _ => none

/-- The name of a choice and what it carries: a bare name carries nothing, an
object with a single member carries the member's value. -/
def choice? : Json → Option (String × Option Json)
  | .text name => some (name, none)
  | .object [(name, payload)] => some (name, some payload)
  | _ => none

/-- The name of a choice that carries nothing, or only `null`. -/
def bareChoice? (document : Json) : Option String :=
  match choice? document with
  | some (name, none) => some name
  | some (name, some .null) => some name
  | _ => none

end Json

namespace Key

/-- A key as a JSON record. -/
def toJson (key : Key) : Json :=
  .object [("kind", .text key.kind), ("partition", .text key.partition),
    ("name", .text key.name)]

/-- The key that a JSON record holds; every field must be there. -/
def ofJson? (document : Json) : Option Key :=
  match Json.fields? ["kind", "partition", "name"] document with
  | some [some (.text kind), some (.text partition), some (.text name)] =>
      some ⟨kind, partition, name⟩
  | _ => none

end Key

namespace Target

/-- The target that a JSON choice names. -/
def ofJson? (document : Json) : Option Target :=
  (Json.bareChoice? document).bind ofName?

end Target

namespace Condition

/-- The condition that a JSON choice names. -/
def ofJson? (document : Json) : Option Condition :=
  (Json.bareChoice? document).bind ofName?

end Condition

namespace Job

/-- A job as a JSON choice: a known one by its bare name, a custom one with its
name as payload. -/
def toJson : Job → Json
  | .custom name => .object [("custom", .text name)]
  | job => .text job.name

/-- The job that a JSON choice names. -/
def ofJson? (document : Json) : Option Job :=
  match Json.choice? document with
  | some ("custom", some (.text name)) => some (.custom name)
  | _ => (Json.bareChoice? document).bind known?

end Job
end DesiredState
