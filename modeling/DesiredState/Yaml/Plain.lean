import DesiredState.Yaml.Gap

/-!
# Plain scalars

A plain scalar has no quotes.  It ends before a colon that a gap follows,
before a comment, before the mark of a document's start or end, and, outside
of brackets, before a line that is not indented to its margin.  Inside of
brackets it also ends before brackets and commas.
-/

namespace DesiredState
namespace Yaml
namespace Plain

/-- The brackets and the comma, which end a scalar inside of brackets. -/
def flowMarks : List Char :=
  [',', '[', ']', '\x7b', '\x7d']

/-- The characters that no plain scalar starts with in any case. -/
def neverFirst : List Char :=
  flowMarks ++ ['#', '&', '*', '!', '|', '>', '\'', '"', '%', '@', '\u0060']

/-- Whether a plain scalar starts here.  A dash, a question mark and a colon
start one only if no gap follows them. -/
def startsAt (inFlow : Bool) : List Glyph → Bool
  | [] => false
  | glyph :: rest =>
      if glyph.char = '-' then
        !(Glyph.oneOfAhead [' ', '\t'] rest)
      else if glyph.char = '?' || glyph.char = ':' then
        !inFlow && !(Glyph.gapAhead rest)
      else
        !glyph.isGap && !(neverFirst.contains glyph.char)

/-- Whether a scalar ends at the glyphs after a gap. -/
def endsAfterGap (inFlow : Bool) (margin : Nat) (gap : Gap) (glyph : Glyph) : Bool :=
  !gap.isNone && (glyph.char == '#' || (!inFlow && glyph.column < margin))

/-- Whether a scalar ends at an indicator. -/
def endsAtMark (inFlow : Bool) (glyph : Glyph) (rest : List Glyph) : Bool :=
  (glyph.char == ':' && Glyph.gapAhead rest) || (inFlow && flowMarks.contains glyph.char)

/-- The text of a plain scalar after a gap, the gap that it ends with, and
what follows.  A tab in the margin is an error, and so is, inside of brackets,
a colon right before a bracket, a comma or a question mark. -/
def read? (inFlow : Bool) (margin : Nat) (gap : Gap) :
    List Glyph → Option (List Char × Gap × List Glyph)
  | [] => some ([], gap, [])
  | glyph :: rest =>
      if glyph.isGap then
        if glyph.char = '\t' && gap.crossesLines && glyph.column < margin then
          none
        else
          read? inFlow margin (gap.add glyph) rest
      else if Glyph.documentMarkAhead (glyph :: rest) ||
          endsAfterGap inFlow margin gap glyph then
        some ([], gap, glyph :: rest)
      else if inFlow && glyph.char = ':' && Glyph.oneOfAhead ('?' :: flowMarks) rest then
        none
      else if endsAtMark inFlow glyph rest then
        some ([], gap, glyph :: rest)
      else
        -- the gap is part of the text only now that more text follows
        (read? inFlow margin .none rest).map fun (text, last, after) =>
          (gap.folded ++ glyph.char :: text, last, after)

end Plain
end Yaml
end DesiredState
