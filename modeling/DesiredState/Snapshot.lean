import DesiredState.Attributes

/-!
# Device snapshots

A snapshot is the stored configuration of a whole device: a map from resource
keys, as they are shown, to attribute maps in wire form.  It is kept in the
order of its keys, so that two snapshots with the same resources are the same
list.
-/

namespace DesiredState

/-- The stored resources of a device, in the order of their keys. -/
structure Snapshot where
  /-- The resources under their keys, in increasing order. -/
  resources : List (String × Attributes)
deriving Inhabited, Repr

namespace Snapshot

/-- The device without resources. -/
def empty : Snapshot := ⟨[]⟩

/-- The resource stored under a key. -/
def get? (snapshot : Snapshot) (key : String) : Option Attributes :=
  snapshot.resources.lookup key

/-- Stores a resource in a list that is ordered by key, at the key's place. -/
def place (key : String) (resource : Attributes) :
    List (String × Attributes) → List (String × Attributes)
  | [] => [(key, resource)]
  | (known, old) :: rest =>
      if key = known then
        (known, resource) :: rest
      else if key < known then
        (key, resource) :: (known, old) :: rest
      else
        (known, old) :: place key resource rest

/-- Stores a resource under a key. -/
def insert (snapshot : Snapshot) (key : String) (resource : Attributes) : Snapshot :=
  ⟨place key resource snapshot.resources⟩

/-- Removes the resource under a key. -/
def erase (snapshot : Snapshot) (key : String) : Snapshot :=
  ⟨Entries.erase key snapshot.resources⟩

/-- Changes the resource under a key, if there is one. -/
def modify (snapshot : Snapshot) (key : String)
    (change : Attributes → Attributes) : Snapshot :=
  match snapshot.get? key with
  | some resource => snapshot.insert key (change resource)
  | none => snapshot

/-- The snapshot that results from storing some resources one after the other. -/
def ofList (resources : List (String × Attributes)) : Snapshot :=
  resources.foldl (fun snapshot (key, resource) => snapshot.insert key resource) empty

/-- How many resources are stored. -/
def size (snapshot : Snapshot) : Nat :=
  snapshot.resources.length

/-- Whether nothing is stored. -/
def isEmpty (snapshot : Snapshot) : Bool :=
  snapshot.resources.isEmpty

/-- What is placed under a key is found there, in any list. -/
@[simp] theorem lookup_place_self (key : String) (resource : Attributes)
    (resources : List (String × Attributes)) :
    (place key resource resources).lookup key = some resource := by
  induction resources with
  | nil => simp [place]
  | cons entry rest ih =>
      obtain ⟨known, old⟩ := entry
      by_cases heq : key = known
      · simp [place, heq]
      · by_cases hlt : key < known
        · simp [place, heq, hlt]
        · have hne : (key == known) = false := by simp [heq]
          simp [place, heq, hlt, List.lookup_cons, hne, ih]

end Snapshot
end DesiredState
