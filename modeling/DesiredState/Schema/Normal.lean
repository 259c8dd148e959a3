import DesiredState.Fault
import DesiredState.Key
import DesiredState.Schema.Field
import DesiredState.Text.Decimal
import DesiredState.Value

/-!
# Normal values

Caller input comes in many spellings; every shape has one normal form, and
`Field.normalize` brings an input into it or refuses it.  What a device
reports is brought to the declared shape where that is possible and is never
refused.
-/

namespace DesiredState

/-- The texts that mean true. -/
def truthy : List String := ["yes", "on", "1", "true", "True", "enabled"]

/-- The texts that mean false. -/
def falsey : List String := ["no", "off", "0", "false", "False", "disabled"]

/-- The truth value that a text means. -/
def flagOfText? (content : String) : Option Bool :=
  if truthy.contains content then some true
  else if falsey.contains content then some false
  else none

/-- The word that is sent for a truth value. -/
def toggleWord (on : Bool) : String :=
  if on then "enabled" else "disabled"

namespace Value

/-- The truth value that an input means. -/
def flagInput? : Value → Option Bool
  | .flag on => some on
  | .int 1 => some true
  | .int 0 => some false
  | .text content => flagOfText? content
  | _ => none

end Value

namespace Field

/-- A refusal of an input for a field. -/
def refuse {α : Type} (field : Field) (detail : String) : Except Fault α :=
  .error (.validation field.name detail)

/-- The input with a synonym replaced by what it stands for. -/
def respell (field : Field) : Value → Value
  | .text content =>
      .text (((field.synonyms.find? fun pair => pair.1 == content).map Prod.snd).getD content)
  | value => value

/-- The truth value that an input means. -/
def normalFlag (field : Field) (value : Value) : Except Fault Bool :=
  match value.flagInput? with
  | some on => .ok on
  | none => field.refuse s!"'{value.display}' is not a valid boolean."

/-- The number that an input means. -/
def normalInt (field : Field) (low high : Int) (value : Value) : Except Fault Int := do
  let number ←
    match value with
    | .int number => .ok number
    | .text content =>
        match Text.readInt64 (Text.trim content) with
        | some number => .ok number
        | none => field.refuse s!"'{content}' is not an integer."
    | other => field.refuse s!"expected an integer, got '{other.display}'."
  if number < low ∨ high < number then
    field.refuse s!"Valid '{field.name}' must be in range {low} - {high}."
  else
    return number

/-- The text that an input means; numbers and truth values are spelled out. -/
def normalText (field : Field) : Value → Except Fault String
  | .text content => .ok content
  | .int number => .ok (toString number)
  | .flag on => .ok (Value.flagText on)
  | other => field.refuse s!"expected a string, got '{other.display}'."

/-- The text of an input that must be a text. -/
def plainText (field : Field) : Value → Except Fault String
  | .text content => .ok content
  | other => field.refuse s!"expected a string, got '{other.display}'."

/-- A one-item list that asks for clearing is the empty list. -/
def clearedList : List String → List String
  | [item] => if item == "" || item == "none" then [] else [item]
  | items => items

/-- The list that an input means; a single text is a list of one item. -/
def normalList (field : Field) : Value → Except Fault (List String)
  | .list items => .ok (clearedList items)
  | .text content => .ok (clearedList [content])
  | other => field.refuse s!"expected a list, got '{other.display}'."

/-- The normal form of an input for the shape of a field, without regard to
the length of texts. -/
def normalShape (field : Field) (partition : String) (value : Value) :
    Except Fault Value :=
  match field.shape with
  | .flag => return .flag (← field.normalFlag value)
  | .toggle => return .text (toggleWord (← field.normalFlag value))
  | .int low high => return .int (← field.normalInt low high value)
  | .text => return .text (← field.normalText value)
  | .choice choices => do
      let content ← field.plainText value
      if choices.contains content then
        return .text content
      else
        let shown := ", ".intercalate choices
        field.refuse s!"Value '{content}' is not one of: {shown}."
  | .reference => do
      let content ← field.plainText value
      if content == "" || content == "none" then
        return .text ""
      else
        return .text (qualify partition content)
  | .list => return .list (← field.normalList value)
  | .referenceList => return .list ((← field.normalList value).map (qualify partition))
  | .keywordOrList keywords =>
      match value with
      | .text content =>
          if keywords.contains content then
            return .text content
          else
            let shown := ", ".intercalate keywords
            field.refuse s!"Value '{content}' must be a list or one of: {shown}."
      | other => return .list (← field.normalList other)
  | .nested =>
      match value with
      | .nested entries => return .nested entries
      | other => field.refuse s!"expected a map, got '{other.display}'."

/-- A normal value, unless it is a text that is too long for the field. -/
def checkLength (field : Field) (value : Value) : Except Fault Value :=
  match field.maxLength, value with
  | some limit, .text content =>
      if limit < content.length then
        field.refuse
          s!"The '{field.name}' cannot be more than {limit} characters in length."
      else
        .ok value
  | _, _ => .ok value

/-- The normal form of an input for a field in a partition. -/
def normalize (field : Field) (partition : String) (value : Value) :
    Except Fault Value := do
  field.checkLength (← field.normalShape partition (field.respell value))

/-- A reported value, brought to the shape of a field where it can be. -/
def coerce (field : Field) (value : Value) : Value :=
  match field.shape, value with
  | .flag, .text content => ((flagOfText? content).map Value.flag).getD value
  | .toggle, .flag on => .text (toggleWord on)
  | .toggle, .text content =>
      ((flagOfText? content).map fun on => Value.text (toggleWord on)).getD value
  | .int _ _, .text content =>
      ((Text.readInt64 (Text.trim content)).map Value.int).getD value
  | .list, .text content | .referenceList, .text content =>
      .list (if content == "" || content == "none" then [] else [content])
  | _, _ => value

end Field
end DesiredState
