import DesiredState.WorkOrder
import DesiredState.Yaml.Document
import DesiredState.Yaml.Meaning

/-!
# Reading work orders

A work order is written as a YAML mapping of its fields, all but the first of
which may be left out.  A field that holds a text takes the text of any
scalar, whatever it means elsewhere.  Parameters are read by what their
scalars mean: a parameter that means nothing is left out, a real number is an
error, and a repeated parameter replaces the earlier one.
-/

namespace DesiredState

namespace Yaml
namespace Scalar

/-- A plain scalar without text. -/
def isBare (scalar : Scalar) : Bool :=
  scalar.style == .plain && scalar.text.isEmpty

/-- Whether a scalar in the place of an optional field leaves the field out.
A plain scalar with the tag of the null type has to be a word for nothing. -/
def isOmission? (scalar : Scalar) : Option Bool :=
  if scalar.style != .plain then some false
  else match scalar.tag with
  | none => some (scalar.text.isEmpty || Meaning.isNullWord scalar.text)
  | some tag =>
      if tag != .standard "null" then some false
      else if Meaning.isNullWord scalar.text then some true
      else none

end Scalar

namespace Tree

/-- The text of a scalar, whatever it means. -/
def text? : Tree → Option String
  | .scalar content => some content.text
  | _ => none

/-- The text of a scalar that means a text. -/
def meantText? : Tree → Option String
  | .scalar content =>
      match Meaning.ofScalar? content with
      | some (.text text) => some text
      | _ => none
  | _ => none

/-- Whether a collection may be read, given its tag: a local tag must not give
it a name. -/
def isReadable (tag : Option Tag) : Bool :=
  (tag.bind Tag.localName?).isNone

/-- The value that a scalar means; `none` inside when it means nothing. -/
def scalarValue? (content : Scalar) : Option (Option Value) :=
  match Meaning.ofScalar? content with
  | some .null => some none
  | some (.flag on) => some (some (.flag on))
  | some (.int number) =>
      if Text.fitsInt64 number then some (some (.int number)) else none
  | some (.text text) => some (some (.text text))
  | _ => none

mutual

/-- The value of a tree; `none` inside when it means nothing. -/
def value? : Tree → Option (Option Value)
  | .scalar content => scalarValue? content
  | .sequence tag items =>
      if isReadable tag then
        (items.mapM meantText?).map fun texts => some (.list texts)
      else
        none
  | .mapping tag members =>
      if isReadable tag then
        (storeMembers [] members).map fun entries => some (.nested entries)
      else
        none

/-- Stores the members of a mapping one after the other over some entries.  A
key has to mean a text; a value that means nothing stores nothing. -/
def storeMembers (entries : List (String × Value)) :
    List (Tree × Tree) → Option (List (String × Value))
  | [] => some entries
  | (key, tree) :: rest => do
      let name ← meantText? key
      match ← value? tree with
      | none => storeMembers entries rest
      | some value => storeMembers (Entries.put name value entries) rest

end

/-- The value of a parameter; `none` inside when it is left out. -/
def parameter? : Tree → Option (Option Value)
  | .scalar content => do
      if ← content.isOmission? then
        return none
      else
        let value ← (← scalarValue? content)
        return some value
  | tree => value? tree

/-- The parameters in a mapping.  A plain scalar without text holds none. -/
def parameters? : Tree → Option Attributes
  | .mapping _ members =>
      members.foldlM (fun (set : Attributes) (member : Tree × Tree) => do
        let name ← text? member.1
        match ← parameter? member.2 with
        | none => return set
        | some value => return set.insert name value) .empty
  | .scalar content => if content.isBare then some .empty else none
  | .sequence _ _ => none

/-- The text of an optional field; `none` inside when it is left out. -/
def optionalText? : Tree → Option (Option String)
  | .scalar content =>
      content.isOmission?.map fun omitted => if omitted then none else some content.text
  | _ => none

/-- The truth value of a scalar: a plain one, or a literal block with the tag
of the boolean type. -/
def flag? : Tree → Option Bool
  | .scalar content =>
      if content.style = .plain ||
          (content.style = .literal && content.tag == some (.standard "bool")) then
        Meaning.flag? content.text
      else
        none
  | _ => none

/-- The name of a choice: the text of a scalar, or the name that its local tag
gives, when the scalar itself means nothing. -/
def choice? : Tree → Option String
  | .scalar content =>
      match content.tag.bind Tag.localName? with
      | none => some content.text
      | some name =>
          if content.isBare || (content.style = .plain && Meaning.isNullWord content.text) then
            some name
          else
            none
  | _ => none

/-- The tree under one field of a record, which has the field at most once. -/
def field? (members : List (String × Tree)) (name : String) : Option (Option Tree) :=
  match members.filter fun member => member.1 == name with
  | [] => some none
  | [member] => some (some member.2)
  | _ => none

/-- The trees under the fields of a record, in order; `none` inside where a
field is missing.  A record is a mapping that has no other members. -/
def fields? (names : List String) : Tree → Option (List (Option Tree))
  | .mapping _ members => do
      let named ← members.mapM fun (member : Tree × Tree) =>
        ((text? member.1).filter names.contains).map fun name => (name, member.2)
      names.mapM (field? named)
  | _ => none

end Tree
end Yaml

namespace WorkOrder

open Yaml

/-- The fields of a work order, in order. -/
def fieldNames : List String :=
  ["module", "type", "version", "name", "partition", "state", "params", "check_mode"]

/-- The content of a field, or its value when it is missing. -/
def orDefault {α : Type} (fallback : α) (read? : Tree → Option α) :
    Option Tree → Option α
  | none => some fallback
  | some tree => read? tree

/-- The work order that a tree holds. -/
def ofTree? (tree : Tree) : Option WorkOrder := do
  match ← Tree.fields? fieldNames tree with
  | [some entry, variety, version, name, partition, target, params, checkOnly] =>
      return {
        entry := ← Tree.text? entry
        variety := ← orDefault none Tree.optionalText? variety
        version := ← orDefault none Tree.optionalText? version
        name := ← orDefault none Tree.optionalText? name
        partition := ← orDefault defaultPartition Tree.text? partition
        target := ← orDefault .present
          (fun tree => (Tree.choice? tree).bind Target.ofName?) target
        params := ← orDefault .empty Tree.parameters? params
        checkOnly := ← orDefault false Tree.flag? checkOnly }
  | _ => none

/-- The work order that a YAML text holds. -/
def ofText? (text : String) : Option WorkOrder :=
  (Tree.ofText? text).bind ofTree?

end WorkOrder
end DesiredState
