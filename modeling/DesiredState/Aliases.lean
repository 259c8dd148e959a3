import DesiredState.Attributes

/-!
# Wire names and logical names

A device knows an attribute by its wire name, a caller by its logical name.
The alias table pairs the two where they differ; a name without a pair stands
for itself in both directions, and of two pairs for one name the first counts.
-/

namespace DesiredState

/-- A table of wire names with their logical names. -/
structure Aliases where
  /-- The pairs, wire name first. -/
  pairs : List (String × String)
deriving Inhabited, Repr, DecidableEq

namespace Aliases

/-- The table with no pairs. -/
def empty : Aliases := ⟨[]⟩

/-- Whether the table has no pairs. -/
def isEmpty (table : Aliases) : Bool :=
  table.pairs.isEmpty

/-- Adds a pair at the end. -/
def push (table : Aliases) (wire logical : String) : Aliases :=
  ⟨table.pairs ++ [(wire, logical)]⟩

/-- The logical name of a wire name. -/
def toLogical (table : Aliases) (wire : String) : String :=
  ((table.pairs.find? fun pair => pair.1 == wire).map Prod.snd).getD wire

/-- The wire name of a logical name. -/
def toWire (table : Aliases) (logical : String) : String :=
  ((table.pairs.find? fun pair => pair.2 == logical).map Prod.fst).getD logical

/-- The map of some wire pairs under their logical names. -/
def logicalSet (table : Aliases) (raw : List (String × Value)) : Attributes :=
  Attributes.ofList (raw.map fun (wire, value) => (table.toLogical wire, value))

end Aliases
end DesiredState
