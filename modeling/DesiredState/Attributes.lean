import DesiredState.Entries
import DesiredState.Value

/-!
# Attribute maps

An attribute map is a finite map from names to values that remembers the order
in which its names came.  It carries both what a caller wants and what a
device has; a name that is not set is not there.  Replacing a value keeps the
place of its name.
-/

namespace DesiredState

/-- An ordered finite map from attribute names to values. -/
structure Attributes where
  /-- The entries, in the order in which their names first came. -/
  entries : List (String × Value)
deriving Inhabited, Repr

namespace Attributes

/-- The map with nothing set. -/
def empty : Attributes := ⟨[]⟩

/-- The value of a name; `none` when it is not set. -/
def get? (set : Attributes) (name : String) : Option Value :=
  set.entries.lookup name

/-- Sets a name, in its place if it has one. -/
def insert (set : Attributes) (name : String) (value : Value) : Attributes :=
  ⟨Entries.put name value set.entries⟩

/-- Unsets a name. -/
def erase (set : Attributes) (name : String) : Attributes :=
  ⟨Entries.erase name set.entries⟩

/-- The map with `changes` set over it, one by one. -/
def update (set changes : Attributes) : Attributes :=
  ⟨Entries.merge set.entries changes.entries⟩

/-- The map that results from setting some pairs one after the other. -/
def ofList (pairs : List (String × Value)) : Attributes :=
  ⟨Entries.merge [] pairs⟩

/-- The names that are set, in order. -/
def names (set : Attributes) : List String :=
  Entries.names set.entries

/-- How many names are set. -/
def size (set : Attributes) : Nat :=
  set.entries.length

/-- Whether nothing is set. -/
def isEmpty (set : Attributes) : Bool :=
  set.entries.isEmpty

/-- Whether a name is set. -/
def contains (set : Attributes) (name : String) : Bool :=
  (set.get? name).isSome

/-- Whether a name is set to something that does not ask for clearing. -/
def isSet (set : Attributes) (name : String) : Bool :=
  (set.get? name).any fun value => !value.isClear

/-- Whether a name is set to a value that asks for clearing. -/
def clears (set : Attributes) (name : String) : Bool :=
  (set.get? name).any Value.isClear

/-- The text under a name. -/
def text? (set : Attributes) (name : String) : Option String :=
  (set.get? name).bind Value.asText

/-- The truth value under a name. -/
def flag? (set : Attributes) (name : String) : Option Bool :=
  (set.get? name).bind Value.asFlag

/-- The number under a name. -/
def int? (set : Attributes) (name : String) : Option Int :=
  (set.get? name).bind Value.asInt

/-- The list under a name. -/
def list? (set : Attributes) (name : String) : Option (List String) :=
  (set.get? name).bind Value.asList

/-- The nested map under a name. -/
def nested? (set : Attributes) (name : String) : Option Attributes :=
  ((set.get? name).bind Value.asNested).map Attributes.mk

/-- The listed names that are set, in the order of the list. -/
def pick (set : Attributes) (wanted : List String) : Attributes :=
  ofList (wanted.filterMap fun name => (set.get? name).map fun value => (name, value))

/-- Whether two maps bind the same names to the same values, in any order. -/
def same (a b : Attributes) : Bool :=
  a.entries.length == b.entries.length && Value.boundIn a.entries b.entries

/-- A map as it is shown in messages: its pairs, `name=value`, in order. -/
def display (set : Attributes) : String :=
  ", ".intercalate (set.entries.map fun (name, value) => name ++ "=" ++ value.display)

/-- What is set is found. -/
@[simp] theorem get?_insert_self (set : Attributes) (name : String) (value : Value) :
    (set.insert name value).get? name = some value :=
  Entries.lookup_put_self name value set.entries

/-- Setting a name leaves the other names alone. -/
theorem get?_insert_of_ne (set : Attributes) {name other : String}
    (h : other ≠ name) (value : Value) :
    (set.insert name value).get? other = set.get? other :=
  Entries.lookup_put_of_ne h value set.entries

end Attributes
end DesiredState
