import DesiredState.Attributes
import DesiredState.Text.Decimal

/-!
# Grouped attributes

Some devices keep several attributes in one nested map, which a caller sees as
flat attributes.  A group says which wire name holds the nested map and which
inner key holds which logical name.  `Group.gather` moves flat attributes into
the nested map, `Group.spread` moves them out again.
-/

namespace DesiredState
namespace Catalog

/-- Attributes that share one nested map on the device. -/
structure Group where
  /-- The wire name of the nested map. -/
  wire : String
  /-- The logical names, each with its key inside the nested map. -/
  members : List (String × String)
deriving Inhabited, Repr, DecidableEq

/-- A value of a nested map: a text that spells an integer is that integer. -/
def numericValue (value : Value) : Value :=
  match value with
  | .text content => ((Text.readInt64 content).map Value.int).getD value
  | other => other

namespace Group

/-- The nested map of a group, as far as its members are set. -/
def nestedOf (group : Group) (body : Attributes) : Attributes :=
  Attributes.ofList (group.members.filterMap fun (logical, inner) =>
    (body.get? logical).map fun value => (inner, value))

/-- Moves the members of a group into its nested map; without any member there
is no nested map. -/
def gather (group : Group) (body : Attributes) : Attributes :=
  let nested := group.nestedOf body
  let flat := group.members.foldl (fun rest member => rest.erase member.1) body
  if nested.isEmpty then flat else flat.insert group.wire (.nested nested.entries)

/-- Moves the members of a group out of its nested map.  Whatever else is
stored under its wire name is dropped. -/
def spread (group : Group) (held : Attributes) : Attributes :=
  let flat := held.erase group.wire
  match held.get? group.wire with
  | some (.nested entries) =>
      group.members.foldl
        (fun set (logical, inner) =>
          match entries.lookup inner with
          | some value => set.insert logical (numericValue value)
          | none => set)
        flat
  | _ => flat

end Group
end Catalog
end DesiredState
