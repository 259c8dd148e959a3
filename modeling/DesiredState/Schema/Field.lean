/-!
# Declared fields

A field declares one attribute of a resource: its logical name, its wire name
where that differs, the shape of its values and the way in which a wanted
value is compared with an observed one.
-/

namespace DesiredState

/-- The declared shape of an attribute's values. -/
inductive Shape where
  | flag
  /-- A truth value on input, sent as `enabled` or `disabled`. -/
  | toggle
  /-- An integer between two bounds, both included. -/
  | int (low high : Int)
  | text
  /-- One of some texts. -/
  | choice (choices : List String)
  /-- The name of another resource, qualified with the partition. -/
  | reference
  | list
  /-- A list of names of other resources, each qualified. -/
  | referenceList
  /-- One of some keywords, or else a list of texts. -/
  | keywordOrList (keywords : List String)
  | nested
deriving Inhabited, Repr, DecidableEq

/-- How a wanted value is compared with an observed one. -/
inductive Comparison where
  /-- Sameness of values. -/
  | exact
  /-- Sameness as sets, where the empty list removes everything. -/
  | unorderedList
  /-- Sameness, where a cleared text is the same as an unset one. -/
  | optionalText
  /-- Sameness together with a partner; both are sent when either differs. -/
  | paired (partner : String)
  /-- A difference is refused. -/
  | immutable
  /-- A keyword, or a list that is compared as a set. -/
  | keywordOrSet
deriving Inhabited, Repr, DecidableEq

namespace Shape

/-- The comparison that goes with a shape unless another is declared. -/
def comparison : Shape → Comparison
  | .list | .referenceList => .unorderedList
  | .reference => .optionalText
  | .keywordOrList _ => .keywordOrSet
  | _ => .exact

end Shape

/-- The declaration of one attribute. -/
structure Field where
  /-- The logical name. -/
  name : String
  shape : Shape
  /-- The wire name, where it differs from the logical one. -/
  wire : Option String := none
  /-- How wanted and observed values are compared. -/
  comparison : Comparison := shape.comparison
  /-- The largest number of characters of a text. -/
  maxLength : Option Nat := none
  /-- Input spellings with the spelling that each stands for. -/
  synonyms : List (String × String) := []
deriving Inhabited, Repr, DecidableEq

namespace Field

/-- A field for truth values. -/
def flag (name : String) : Field := { name, shape := .flag }

/-- A field for truth values that are sent as `enabled` or `disabled`. -/
def toggle (name : String) : Field := { name, shape := .toggle }

/-- A field for integers between two bounds. -/
def int (name : String) (low high : Int) : Field := { name, shape := .int low high }

/-- A field for port numbers. -/
def port (name : String) : Field := int name 0 65535

/-- A field for texts. -/
def text (name : String) : Field := { name, shape := .text }

/-- A field for one of some texts. -/
def choice (name : String) (choices : List String) : Field :=
  { name, shape := .choice choices }

/-- A field for the name of another resource. -/
def reference (name : String) : Field := { name, shape := .reference }

/-- A field for lists of texts. -/
def list (name : String) : Field := { name, shape := .list }

/-- A field for lists of names of other resources. -/
def referenceList (name : String) : Field := { name, shape := .referenceList }

/-- The field under a wire name of its own. -/
def sentAs (field : Field) (wire : String) : Field :=
  { field with wire := some wire }

/-- The field with another comparison. -/
def comparedBy (field : Field) (comparison : Comparison) : Field :=
  { field with comparison }

/-- The field with a bound on the length of its texts. -/
def atMost (field : Field) (maxLength : Nat) : Field :=
  { field with maxLength := some maxLength }

/-- The field with other spellings for some inputs. -/
def spelled (field : Field) (synonyms : List (String × String)) : Field :=
  { field with synonyms }

end Field
end DesiredState
