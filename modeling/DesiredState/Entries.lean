/-!
# Lists of named entries

A finite map kept as a list of name and payload pairs in the order in which
the names first came.  Storing under a name that is present replaces the
payload and keeps the name's place; a new name goes to the end.  The look-up
laws need no invariant; distinctness of names is kept by every operation.
-/

namespace DesiredState
namespace Entries

variable {α : Type}

/-- The names of a list of entries, in order. -/
def names (entries : List (String × α)) : List String :=
  entries.map Prod.fst

/-- Stores a payload under a name, in the name's place if it has one. -/
def put (name : String) (payload : α) : List (String × α) → List (String × α)
  | [] => [(name, payload)]
  | (known, old) :: rest =>
      if known = name then
        (known, payload) :: rest
      else
        (known, old) :: put name payload rest

/-- Drops the entry of a name. -/
def erase (name : String) : List (String × α) → List (String × α)
  | [] => []
  | (known, payload) :: rest =>
      if known = name then rest else (known, payload) :: erase name rest

/-- Stores the entries of the second list over the first, one by one. -/
def merge (base changes : List (String × α)) : List (String × α) :=
  changes.foldl (fun entries (name, payload) => put name payload entries) base

/-- What is stored under a name is found there. -/
@[simp] theorem lookup_put_self (name : String) (payload : α)
    (entries : List (String × α)) :
    (put name payload entries).lookup name = some payload := by
  induction entries with
  | nil => simp [put]
  | cons entry rest ih =>
      obtain ⟨known, old⟩ := entry
      by_cases h : known = name
      · simp [put, h]
      · have hne : (name == known) = false := by simp [Ne.symm h]
        simp [put, h, List.lookup_cons, hne, ih]

/-- Storing under a name leaves the other names alone. -/
theorem lookup_put_of_ne {name other : String} (h : other ≠ name) (payload : α)
    (entries : List (String × α)) :
    (put name payload entries).lookup other = entries.lookup other := by
  induction entries with
  | nil =>
      have hne : (other == name) = false := by simp [h]
      simp [put, List.lookup_cons, hne]
  | cons entry rest ih =>
      obtain ⟨known, old⟩ := entry
      by_cases hk : known = name
      · have hne : (other == name) = false := by simp [h]
        simp [put, hk, List.lookup_cons, hne]
      · by_cases ho : other = known
        · simp [put, hk, ho]
        · have hne : (other == known) = false := by simp [ho]
          simp [put, hk, List.lookup_cons, hne, ih]

/-- A name that is present keeps its place; a new one goes to the end. -/
theorem names_put (name : String) (payload : α) (entries : List (String × α)) :
    names (put name payload entries) =
      if name ∈ names entries then names entries else names entries ++ [name] := by
  induction entries with
  | nil => simp [put, names]
  | cons entry rest ih =>
      obtain ⟨known, old⟩ := entry
      simp only [names] at ih
      by_cases h : known = name
      · simp [put, h, names]
      · by_cases hmem : name ∈ rest.map Prod.fst
        · simp [put, h, names, ih, hmem]
        · simp [put, h, names, ih, hmem, Ne.symm h]

end Entries
end DesiredState
