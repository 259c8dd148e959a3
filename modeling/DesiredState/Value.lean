/-!
# Attribute values

An attribute holds a truth value, an integer, a text, a list of texts or a
nested map of attributes.  Two values are the same when they have the same
kind and content; nested maps are compared as maps, whatever their order.
-/

namespace DesiredState

/-- The value of one attribute. -/
inductive Value where
  /-- A truth value. -/
  | flag (on : Bool)
  /-- An integer: a port, a limit, a timeout. -/
  | int (number : Int)
  /-- A text: a name, a mode, a reference. -/
  | text (content : String)
  /-- An ordered list of texts. -/
  | list (items : List String)
  /-- A nested map, as its entries in order. -/
  | nested (entries : List (String × Value))
deriving Inhabited, Repr

namespace Value

mutual

/-- Sameness of values: nested maps are the same when they bind the same names
to the same values, in any order. -/
def same : Value → Value → Bool
  | .flag a, .flag b => a == b
  | .int a, .int b => a == b
  | .text a, .text b => a == b
  | .list a, .list b => a == b
  | .nested a, .nested b => a.length == b.length && boundIn a b
  | _, _ => false

/-- Every entry of the first list is bound to the same value in the second. -/
def boundIn : List (String × Value) → List (String × Value) → Bool
  | [], _ => true
  | (name, value) :: rest, other =>
      (match other.lookup name with
        | some bound => same value bound
        | none => false) && boundIn rest other

end

/-- The text of a text value. -/
def asText : Value → Option String
  | .text content => some content
  | _ => none

/-- The truth value of a flag. -/
def asFlag : Value → Option Bool
  | .flag on => some on
  | _ => none

/-- The number of an integer value. -/
def asInt : Value → Option Int
  | .int number => some number
  | _ => none

/-- The items of a list value. -/
def asList : Value → Option (List String)
  | .list items => some items
  | _ => none

/-- The entries of a nested map. -/
def asNested : Value → Option (List (String × Value))
  | .nested entries => some entries
  | _ => none

/-- The values that ask for an attribute to be cleared: the empty text, the
word `none` and the empty list. -/
def isClear : Value → Bool
  | .text content => content == "" || content == "none"
  | .list items => items.isEmpty
  | _ => false

/-- The spelling of a truth value. -/
def flagText (on : Bool) : String :=
  if on then "true" else "false"

/-- A value as it is shown in messages. -/
def display : Value → String
  | .flag on => flagText on
  | .int number => toString number
  | .text content => content
  | .list items => "[" ++ ", ".intercalate items ++ "]"
  | .nested entries => "\x7b" ++ toString entries.length ++ " attributes\x7d"

end Value

/-- Sameness of optional values: both missing, or both present and the same. -/
def sameOption : Option Value → Option Value → Bool
  | none, none => true
  | some a, some b => a.same b
  | _, _ => false

end DesiredState
