import DesiredState.Text.Hexadecimal
import DesiredState.Yaml.Glyph
import DesiredState.Yaml.Token

/-!
# Names, tags and directives

The parts of a text that are not content: the names of anchors, the tags of
nodes, and the directives before a document.
-/

namespace DesiredState
namespace Yaml
namespace Property

/-- The characters of a name. -/
def isNameChar (c : Char) : Bool :=
  c.isAlphanum || c == '_' || c == '-'

/-- The characters of a tag. -/
def isTagChar (c : Char) : Bool :=
  isNameChar c || ";/?:@&=+$.%!~*'()".toList.contains c

/-- The characters of a tag that is written out in full. -/
def isFullTagChar (c : Char) : Bool :=
  isTagChar c || c == ',' || c == '[' || c == ']'

/-- The characters that may come right after the name of an anchor. -/
def afterName : List Char :=
  ['?', ':', ',', ']', '\x7d', '%', '@', '\u0060']

/-- The characters of a kind that come next, and what follows them. -/
def run (kind : Char → Bool) (glyphs : List Glyph) : List Char × List Glyph :=
  ((glyphs.takeWhile fun glyph => kind glyph.char).map Glyph.char,
    glyphs.dropWhile fun glyph => kind glyph.char)

/-- The name of an anchor or an alias. -/
def name? (glyphs : List Glyph) : Option (String × List Glyph) :=
  let (name, rest) := run isNameChar glyphs
  if !name.isEmpty && (Glyph.gapAhead rest || Glyph.oneOfAhead afterName rest) then
    some (String.ofList name, rest)
  else
    none

/-- A character of which some octets have been read. -/
structure Spelling where
  /-- How many octets have yet to come. -/
  missing : Nat := 0
  /-- The code that the octets give so far. -/
  code : Nat := 0
  /-- The least code that takes so many octets. -/
  least : Nat := 0

namespace Spelling

/-- The character that an octet starts.  The octet tells how many more there
are. -/
def start? (octet : Nat) : Option Spelling :=
  if octet < 0x80 then some ⟨0, octet, 0⟩
  else if octet < 0xC0 then none
  else if octet < 0xE0 then some ⟨1, octet - 0xC0, 0x80⟩
  else if octet < 0xF0 then some ⟨2, octet - 0xE0, 0x800⟩
  else if octet < 0xF8 then some ⟨3, octet - 0xF0, 0x10000⟩
  else none

/-- The character with one more octet. -/
def next? (spelling : Spelling) (octet : Nat) : Option Spelling :=
  if spelling.missing = 0 then
    start? octet
  else if 0x80 ≤ octet && octet < 0xC0 then
    some { spelling with
      missing := spelling.missing - 1
      code := spelling.code * 64 + (octet - 0x80) }
  else
    none

/-- The character that all the octets spell.  None is spelled with more octets
than it takes. -/
def char? (spelling : Spelling) : Option Char :=
  if spelling.least ≤ spelling.code then Text.charOfCode? spelling.code else none

end Spelling

/-- Replaces the percent escapes in a part of a tag by what their octets spell,
after some octets of a character have been read.  A character that has been
started must be finished. -/
def unescape? (spelling : Spelling) : List Char → Option (List (Option Char))
  | [] => if spelling.missing = 0 then some [] else none
  | '%' :: a :: b :: rest => do
      let octet ← Text.hexNumber? [a, b]
      let next ← spelling.next? octet
      if next.missing = 0 then
        return next.char? :: (← unescape? {} rest)
      else
        unescape? next rest
  | c :: rest =>
      if spelling.missing = 0 && c != '%' then
        (unescape? {} rest).map (some c :: ·)
      else
        none

/-- The part of a tag that some characters write. -/
def tagPart? (chars : List Char) : Option Tag :=
  (unescape? {} chars).map fun found => Tag.untilNul ⟨found⟩

/-- The part of a tag made of characters of a kind; at least one is written. -/
def writtenPart? (kind : Char → Bool) (glyphs : List Glyph) :
    Option (Tag × List Glyph) := do
  let (chars, rest) := run kind glyphs
  if chars.isEmpty then
    none
  else
    return (← tagPart? chars, rest)

/-- The name of a handle after its exclamation mark, if another mark ends it. -/
def handle? (glyphs : List Glyph) : Option (String × List Glyph) :=
  let (name, rest) := run isNameChar glyphs
  match rest with
  | [] => none
  | glyph :: after =>
      if glyph.char = '!' then
        some (String.ofList ('!' :: name ++ ['!']), after)
      else
        none

/-- A tag after its exclamation mark, whatever comes next.  Without anything
after the mark it is the lone mark. -/
def tagBody? (glyphs : List Glyph) : Option (Token × List Glyph) := do
  if Glyph.oneOfAhead ['<'] glyphs then
    let (tag, rest) ← writtenPart? isFullTagChar (glyphs.drop 1)
    if Glyph.oneOfAhead ['>'] rest then return (.tag "" tag, rest.drop 1) else none
  else
    match handle? glyphs with
    | some (handle, rest) =>
        let (suffix, after) ← writtenPart? isTagChar rest
        return (.tag handle suffix, after)
    | none =>
        let (chars, rest) := run isTagChar glyphs
        let suffix ← tagPart? chars
        return (if suffix.chars.isEmpty then .tag "" .lone else .tag "!" suffix, rest)

/-- A tag after its exclamation mark.  A gap must follow it, or a comma inside
of brackets. -/
def tag? (inFlow : Bool) (glyphs : List Glyph) : Option (Token × List Glyph) :=
  (tagBody? glyphs).filter fun (_, rest) =>
    Glyph.gapAhead rest || (inFlow && Glyph.oneOfAhead [','] rest)

/-- A number of a version: up to nine digits. -/
def versionNumber? (glyphs : List Glyph) : Option (Nat × List Glyph) :=
  let (digits, rest) := run Char.isDigit glyphs
  if digits.isEmpty || 9 < digits.length then
    none
  else
    some (Nat.ofDigitChars 10 digits 0, rest)

/-- The version that a directive declares. -/
def version? (glyphs : List Glyph) : Option (Token × List Glyph) := do
  let (major, rest) ← versionNumber? (Glyph.skipBlanks glyphs)
  if Glyph.oneOfAhead ['.'] rest then
    let (minor, after) ← versionNumber? (rest.drop 1)
    return (.version major minor, after)
  else
    none

/-- The tag handle that a directive declares, a lone exclamation mark
included. -/
def handleDeclaration? (glyphs : List Glyph) : Option (Token × List Glyph) := do
  let start := Glyph.skipBlanks glyphs
  if Glyph.oneOfAhead ['!'] start then
    let (handle, rest) := (handle? (start.drop 1)).getD ("!", start.drop 1)
    if Glyph.oneOfAhead [' ', '\t'] rest then
      let (expansion, after) ← writtenPart? isFullTagChar (Glyph.skipBlanks rest)
      if Glyph.gapAhead after then return (.tagHandle handle expansion, after) else none
    else
      none
  else
    none

/-- A directive after its percent sign, and the lines after its own. -/
def directive? (glyphs : List Glyph) : Option (Token × List Glyph) := do
  let (name, rest) := run isNameChar glyphs
  let (token, after) ←
    if name == "YAML".toList && Glyph.gapAhead rest then version? rest
    else if name == "TAG".toList && Glyph.gapAhead rest then handleDeclaration? rest
    else none
  return (token, ← Glyph.finishLine? after)

end Property
end Yaml
end DesiredState
