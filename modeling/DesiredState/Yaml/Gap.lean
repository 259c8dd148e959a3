import DesiredState.Yaml.Glyph

/-!
# Gaps

A gap is a run of blanks and line breaks inside a scalar that spans lines.
Within a line its blanks are kept; a single line break becomes a space, and of
several line feeds the first is dropped.
-/

namespace DesiredState
namespace Yaml

/-- A run of blanks and line breaks inside a scalar. -/
inductive Gap where
  /-- A gap within a line. -/
  | blanks (kept : List Char)
  /-- A gap that crosses lines: what its first break stands for, and the later
  breaks.  An escaped break stands for nothing. -/
  | crossing (first later : List Char)
deriving Inhabited, Repr

namespace Gap

/-- No gap at all. -/
def none : Gap := .blanks []

/-- Whether there is no gap. -/
def isNone : Gap → Bool
  | .blanks kept => kept.isEmpty
  | .crossing _ _ => false

/-- Whether a gap crosses lines. -/
def crossesLines : Gap → Bool
  | .blanks _ => false
  | .crossing _ _ => true

/-- A gap with one more blank or line break at its end. -/
def add (gap : Gap) (glyph : Glyph) : Gap :=
  match gap with
  | .blanks kept =>
      if glyph.isBreak then .crossing [glyph.char] [] else .blanks (kept ++ [glyph.char])
  | .crossing first later =>
      if glyph.isBreak then .crossing first (later ++ [glyph.char]) else gap

/-- The text that a gap stands for. -/
def folded : Gap → List Char
  | .blanks kept => kept
  | .crossing ['\n'] [] => [' ']
  | .crossing ['\n'] later => later
  | .crossing first later => first ++ later

end Gap
end Yaml
end DesiredState
