import DesiredState.Yaml.Tag

/-!
# Tokens

The tokens of a YAML text.  The structure that indentation gives to a text is
spelled out: a block collection has a token for its start and one for its end,
and a key has a token of its own, whether or not an indicator marks it.
-/

namespace DesiredState
namespace Yaml

/-- How a scalar is written. -/
inductive Style where
  | plain
  /-- In quotes of either kind. -/
  | quoted
  /-- As a block that keeps its line breaks. -/
  | literal
  /-- As a block that folds its line breaks. -/
  | folded
deriving Inhabited, Repr, DecidableEq

/-- A token of a YAML text. -/
inductive Token where
  /-- The version of the language that a document declares. -/
  | version (major minor : Nat)
  /-- The declaration of a tag handle. -/
  | tagHandle (handle : String) (expansion : Tag)
  /-- Three dashes. -/
  | documentStart
  /-- Three dots. -/
  | documentEnd
  | sequenceStart
  | mappingStart
  | blockEnd
  | bracketOpen
  | bracketClose
  | braceOpen
  | braceClose
  /-- The comma between the entries in brackets or braces. -/
  | comma
  /-- The dash before an item. -/
  | dash
  | key
  | value
  /-- A reference to an anchored node. -/
  | alias (name : String)
  | anchor (name : String)
  /-- The tag of the next node: a handle, which abbreviates the front part, and
  the rest.  A tag that is written out in full has the empty handle. -/
  | tag (handle : String) (suffix : Tag)
  | scalar (style : Style) (text : String)
deriving Inhabited, Repr, DecidableEq

end Yaml
end DesiredState
