/-!
# Placed characters

A YAML text is read as a list of glyphs: characters that know where they
stand.  Every spelling of a line break is one glyph, and all but the two
Unicode separators are the same line feed.
-/

namespace DesiredState
namespace Yaml

/-- A character and its place.  The index counts octets from the start of the
text, line and column count from zero. -/
structure Glyph where
  /-- The character; a line feed for most line breaks. -/
  char : Char
  /-- How many octets the characters before it take. -/
  index : Nat
  /-- How many lines stand before its line. -/
  line : Nat
  /-- How many characters stand before it on its line. -/
  column : Nat
deriving Inhabited, Repr

/-- The characters that may occur in a text at all. -/
def isAllowed (c : Char) : Bool :=
  let code := c.toNat
  code == 0x09 || code == 0x0A || code == 0x0D || (0x20 ≤ code && code ≤ 0x7E) ||
    code == 0x85 || (0xA0 ≤ code && code ≤ 0xD7FF) ||
    (0xE000 ≤ code && code ≤ 0xFFFD) || 0x10000 ≤ code

/-- The line break that a character is, if it is one.  The line and the
paragraph separator stand for themselves, all others for a line feed. -/
def lineBreak? (c : Char) : Option Char :=
  if c = '\n' || c = '\r' || c = '\u0085' then some '\n'
  else if c = '\u2028' || c = '\u2029' then some c
  else none

namespace Glyph

/-- A line break. -/
def isBreak (glyph : Glyph) : Bool :=
  (lineBreak? glyph.char).isSome

/-- A space or a tab. -/
def isBlank (glyph : Glyph) : Bool :=
  glyph.char == ' ' || glyph.char == '\t'

/-- A blank or a line break. -/
def isGap (glyph : Glyph) : Bool :=
  glyph.isBlank || glyph.isBreak

/-- The glyphs of some characters, the first of which has the given place. -/
def place (index line column : Nat) : List Char → List Glyph
  | [] => []
  | '\r' :: '\n' :: rest =>
      ⟨'\n', index, line, column⟩ :: place (index + 2) (line + 1) 0 rest
  | c :: rest =>
      match lineBreak? c with
      | some b => ⟨b, index, line, column⟩ :: place (index + c.utf8Size) (line + 1) 0 rest
      | none => ⟨c, index, line, column⟩ :: place (index + c.utf8Size) line (column + 1) rest

/-- The glyphs of a text, if it has no character that may not occur. -/
def ofText? (text : String) : Option (List Glyph) :=
  if text.toList.all isAllowed then some (place 0 0 0 text.toList) else none

/-- The end of the text, a blank or a line break comes next. -/
def gapAhead : List Glyph → Bool
  | [] => true
  | glyph :: _ => glyph.isGap

/-- One of some characters comes next. -/
def oneOfAhead (chars : List Char) : List Glyph → Bool
  | [] => false
  | glyph :: _ => chars.contains glyph.char

/-- Three equal characters at the start of a line, and a gap after them. -/
def tripleAhead (c : Char) : List Glyph → Bool
  | a :: b :: d :: rest =>
      a.column == 0 && a.char == c && b.char == c && d.char == c && gapAhead rest
  | _ => false

/-- The mark of a document's start or end comes next. -/
def documentMarkAhead (glyphs : List Glyph) : Bool :=
  tripleAhead '-' glyphs || tripleAhead '.' glyphs

/-- The glyphs after the blanks that come next. -/
def skipBlanks (glyphs : List Glyph) : List Glyph :=
  glyphs.dropWhile isBlank

/-- The glyphs after the line that comes next, if nothing but blanks and a
comment is left of it. -/
def finishLine? (glyphs : List Glyph) : Option (List Glyph) :=
  let more := skipBlanks glyphs
  let tail := if oneOfAhead ['#'] more then more.dropWhile (!·.isBreak) else more
  match tail with
  | [] => some []
  | glyph :: rest => if glyph.isBreak then some rest else none

end Glyph
end Yaml
end DesiredState
