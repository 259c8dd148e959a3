/-!
# Tags

The tag of a node tells of which type it is.  A tag may be written with
percent escapes, which give octets, and nothing makes these octets spell
characters.  Octets that spell none are kept as such: they are equal to no
character, and a tag that has them has no text.
-/

namespace DesiredState
namespace Yaml

/-- A tag in full, or a part of one. -/
structure Tag where
  /-- Its characters, and `none` for octets that spell none. -/
  chars : List (Option Char)
deriving Inhabited, Repr, DecidableEq

namespace Tag

/-- The tag that is a text. -/
def ofString (text : String) : Tag :=
  ⟨text.toList.map some⟩

/-- The text of a tag, if all its octets spell characters. -/
def text? (tag : Tag) : Option String :=
  (tag.chars.mapM id).map String.ofList

/-- One part of a tag after another. -/
def append (front back : Tag) : Tag :=
  ⟨front.chars ++ back.chars⟩

/-- A part of a tag ends before the first NUL in it. -/
def untilNul (tag : Tag) : Tag :=
  ⟨tag.chars.takeWhile (· != some '\x00')⟩

/-- The lone exclamation mark. -/
def lone : Tag := ofString "!"

/-- The tag of a standard type. -/
def standard (name : String) : Tag :=
  ofString ("tag:yaml.org,2002:" ++ name)

/-- Whether only the document itself gives a meaning to a tag. -/
def isLocal (tag : Tag) : Bool :=
  tag.chars.head? == some (some '!')

/-- The name that a local tag gives, if it has a text. -/
def localName? (tag : Tag) : Option String :=
  match tag.chars with
  | some '!' :: name => text? ⟨name⟩
  | _ => none

end Tag
end Yaml
end DesiredState
