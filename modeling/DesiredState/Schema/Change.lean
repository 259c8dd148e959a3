import DesiredState.Schema.Basic

/-!
# Change sets

A change set holds what has to be sent to a device so that it has what the
caller wants, and nothing else.  Each name that may be updated is judged by
the comparison of its field.  Dependencies between attributes are checked
before anything is compared, so that a violation never yields part of a
change set.
-/

namespace DesiredState

/-- One attribute cannot be cleared while another one depends on it. -/
structure Dependency where
  /-- The attribute that is depended on. -/
  required : String
  /-- The attribute that depends on it. -/
  dependent : String
  /-- Whether the dependent attribute is guarded against clearing as well. -/
  bothWays : Bool
deriving Inhabited, Repr, DecidableEq

namespace Dependency

/-- The refusal to remove one attribute because of another. -/
def removalRefused (removed because : String) : Except Fault Unit :=
  .error (.precondition
    s!"The {removed} cannot be removed if {because} is defined on device.")

/-- Refuses wants that would leave a dependent attribute without the required
one, or that would clear a guarded one. -/
def check (dependency : Dependency) (want held : Attributes) : Except Fault Unit :=
  let a := dependency.required
  let b := dependency.dependent
  if want.clears a && held.isSet b && !want.contains b then
    removalRefused a b
  else if want.isSet b && !want.isSet a && !held.isSet a then
    .error (.precondition
      s!"The {b} cannot be specified without an existing valid {a}.")
  else if dependency.bothWays && want.clears b && held.isSet b && held.isSet a &&
      !want.contains a then
    removalRefused b a
  else
    .ok ()

end Dependency

namespace Value

/-- The texts that a value stands for when it is read as a set. -/
def elements : Value → List String
  | .list items => items
  | .text content => if content == "" || content == "none" then [] else [content]
  | _ => []

/-- Sameness of two lists of texts as sets. -/
def sameSet (a b : List String) : Bool :=
  a.all b.contains && b.all a.contains

/-- What an unordered list has to become, if it has to change. -/
def listChange (wanted : Value) (observed : Option Value) : Option Value :=
  let current := (observed.map elements).getD []
  if wanted.elements.isEmpty then
    if current.isEmpty then none else some (.list [])
  else if sameSet wanted.elements current then
    none
  else
    some wanted

/-- What an optional text has to become, if it has to change. -/
def optionalChange (wanted : Value) (observed : Option Value) : Option Value :=
  if wanted.isClear then
    if observed.all isClear then none else some (.text "")
  else if sameOption observed (some wanted) then
    none
  else
    some wanted

/-- What a keyword or list has to become, if it has to change. -/
def keywordChange (wanted : Value) (observed : Option Value) : Option Value :=
  match wanted, observed with
  | .text keyword, none => if keyword == "none" then none else some wanted
  | .text keyword, some (.text current) => if keyword == current then none else some wanted
  | .text keyword, some (.list items) =>
      if keyword == "none" && items.isEmpty then none else some wanted
  | .text _, some _ => some wanted
  -- no keyword but these stands for an empty list
  | .list items, some (.text current) =>
      if items.isEmpty && (current == "none" || current == "") then none else some wanted
  | .list _, _ => listChange wanted observed
  | _, _ => if sameOption observed (some wanted) then none else some wanted

end Value

namespace Schema

/-- The entries that one name adds to the change set. -/
def changesAt (schema : Schema) (want held : Attributes) (name : String) :
    Except Fault (List (String × Value)) :=
  match want.get? name with
  | none => .ok []
  | some wanted =>
      let observed := held.get? name
      let single (change : Option Value) : List (String × Value) :=
        (change.map fun value => (name, value)).toList
      match schema.comparison name with
      | .exact =>
          .ok (if sameOption observed (some wanted) then [] else [(name, wanted)])
      | .unorderedList => .ok (single (wanted.listChange observed))
      | .optionalText => .ok (single (wanted.optionalChange observed))
      | .paired partner =>
          -- a partner that is not wanted is sent along as it is
          let partnerDiffers :=
            (want.get? partner).any fun value =>
              !sameOption (held.get? partner) (some value)
          if !sameOption observed (some wanted) || partnerDiffers then
            let sent := (want.get? partner).or (held.get? partner)
            .ok ((name, wanted) :: (sent.map fun value => (partner, value)).toList)
          else
            .ok []
      | .immutable =>
          match observed with
          | some current =>
              if current.same wanted then
                .ok []
              else
                .error (.precondition s!"'{name}' cannot be changed once it is set.")
          | none => .ok [(name, wanted)]
      | .keywordOrSet => .ok (single (wanted.keywordChange observed))

/-- The change set that takes a device from what it has to what is wanted.
Only updatable names are judged, in their order; a paired name also brings its
partner along. -/
def changes (schema : Schema) (updatable : List String) (dependencies : List Dependency)
    (want held : Attributes) : Except Fault Attributes := do
  dependencies.forM fun dependency => dependency.check want held
  let found ← updatable.mapM (schema.changesAt want held)
  -- a pair is found from both sides; the map keeps one entry for each name
  return Attributes.ofList found.flatten

end Schema
end DesiredState
