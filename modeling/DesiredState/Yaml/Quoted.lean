import DesiredState.Text.Hexadecimal
import DesiredState.Yaml.Gap

/-!
# Quoted scalars

Between single quotes only a doubled quote is special.  Between double quotes
a backslash starts an escape, and an escaped line break joins two lines.  Both
kinds fold the gaps between their lines, and neither may run over the mark of
a document's start or end.
-/

namespace DesiredState
namespace Yaml
namespace Quoted

/-- The text up to the closing single quote, after a gap, and what follows. -/
def single? (gap : Gap) : List Glyph → Option (List Char × List Glyph)
  | [] => none
  | glyph :: rest =>
      if glyph.isGap then
        single? (gap.add glyph) rest
      else if Glyph.documentMarkAhead (glyph :: rest) then
        none
      else if glyph.char = '\'' then
        match rest with
        | [] => some (gap.folded, [])
        | next :: more =>
            if next.char = '\'' then
              (single? .none more).map fun (text, after) =>
                (gap.folded ++ '\'' :: text, after)
            else
              some (gap.folded, next :: more)
      else
        (single? .none rest).map fun (text, after) =>
          (gap.folded ++ glyph.char :: text, after)

/-- The character that a one-letter escape stands for. -/
def escape? (c : Char) : Option Char :=
  [('0', '\x00'), ('a', '\x07'), ('b', '\x08'), ('t', '\t'), ('\t', '\t'), ('n', '\n'),
    ('v', '\x0b'), ('f', '\x0c'), ('r', '\r'), ('e', '\x1b'), (' ', ' '), ('"', '"'),
    ('/', '/'), ('\\', '\\'), ('N', '\u0085'), ('_', '\u00a0'), ('L', '\u2028'),
    ('P', '\u2029')].lookup c

/-- How many hexadecimal digits a numeric escape has. -/
def escapeWidth? (c : Char) : Option Nat :=
  [('x', 2), ('u', 4), ('U', 8)].lookup c

/-- The character that some hexadecimal digits name. -/
def numericEscape? (digits : List Glyph) : Option Char :=
  (Text.hexNumber? (digits.map Glyph.char)).bind Text.charOfCode?

/-- The text up to the closing double quote, after a gap, and what follows.
`skip` glyphs have been read as part of an escape already. -/
def double? (skip : Nat) (gap : Gap) : List Glyph → Option (List Char × List Glyph)
  | [] => none
  | glyph :: rest =>
      if skip ≠ 0 then
        double? (skip - 1) gap rest
      else if glyph.isGap then
        double? 0 (gap.add glyph) rest
      else if Glyph.documentMarkAhead (glyph :: rest) then
        none
      else if glyph.char = '"' then
        some (gap.folded, rest)
      else if glyph.char = '\\' then
        match rest with
        | [] => none
        | next :: more =>
            if next.isBreak then
              (double? 1 (.crossing [] []) rest).map fun (text, after) =>
                (gap.folded ++ text, after)
            else do
              let width := (escapeWidth? next.char).getD 0
              let digits := more.take width
              let char ←
                if digits.length < width then none
                else if width = 0 then escape? next.char
                else numericEscape? digits
              let (text, after) ← double? (1 + width) .none rest
              return (gap.folded ++ char :: text, after)
      else
        (double? 0 .none rest).map fun (text, after) =>
          (gap.folded ++ glyph.char :: text, after)

/-- A quoted scalar after its opening quote. -/
def read? (quote : Char) (glyphs : List Glyph) : Option (List Char × List Glyph) :=
  if quote = '\'' then single? .none glyphs else double? 0 .none glyphs

end Quoted
end Yaml
end DesiredState
