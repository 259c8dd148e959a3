import DesiredState.Yaml.Glyph

/-!
# Block scalars

A block scalar is a run of indented lines.  A literal one keeps its line
breaks.  A folded one turns a break between two lines that start with no blank
into a space, or drops it before an empty line.  The header says what is kept
of the breaks at the end, and may fix the indentation, which else is that of
the first line with text.
-/

namespace DesiredState
namespace Yaml
namespace Block

/-- What is kept of the line breaks at the end. -/
inductive Chomp where
  /-- None of them. -/
  | strip
  /-- The break of the last line. -/
  | clip
  /-- All of them. -/
  | keep
deriving Inhabited, Repr, DecidableEq

/-- The header of a block scalar. -/
structure Header where
  /-- What is kept at the end. -/
  chomp : Chomp := .clip
  /-- How much deeper than its parent the text is indented. -/
  step : Option Nat := none
deriving Inhabited, Repr

/-- The sign of a header. -/
def chomp? (c : Char) : Option Chomp :=
  if c = '-' then some .strip else if c = '+' then some .keep else none

/-- The indentation digit of a header; a zero is an error. -/
def step? (glyphs : List Glyph) : Option (Option Nat × List Glyph) :=
  match glyphs with
  | [] => some (none, [])
  | glyph :: rest =>
      if glyph.char = '0' then none
      else if glyph.char.isDigit then some (some (glyph.char.toNat - '0'.toNat), rest)
      else some (none, glyph :: rest)

/-- The sign of a header, or the lack of one. -/
def sign (glyphs : List Glyph) : Option Chomp × List Glyph :=
  match glyphs with
  | [] => (none, [])
  | glyph :: rest =>
      match chomp? glyph.char with
      | some chomp => (some chomp, rest)
      | none => (none, glyph :: rest)

/-- The header after its indicator: a sign and a digit in either order, and
nothing else on the line but a comment. -/
def header? (glyphs : List Glyph) : Option (Header × List Glyph) := do
  let (before, afterSign) := sign glyphs
  let (step, afterStep) ← step? afterSign
  let (chomp, rest) := if before.isSome then (before, afterStep) else sign afterStep
  return (⟨chomp.getD .clip, step⟩, ← Glyph.finishLine? rest)

/-- The column of the first line with text.  Empty lines count with their
blanks; a tab among them is an error. -/
def detect? (deepest : Nat) : List Glyph → Option Nat
  | [] => some deepest
  | glyph :: rest =>
      if glyph.char = ' ' then detect? (max deepest (glyph.column + 1)) rest
      else if glyph.char = '\t' then none
      else if glyph.isBreak then detect? deepest rest
      else some deepest

/-- What stands before the next line of text. -/
structure Pending where
  /-- Whether the reading is inside a line. -/
  inLine : Bool := false
  /-- Whether the last line starts with a blank. -/
  blank : Bool := false
  /-- The break at the end of the last line. -/
  lineEnd : List Char := []
  /-- The breaks of the empty lines after it. -/
  empty : List Char := []
deriving Inhabited, Repr

namespace Pending

/-- The text between the last line and a line that starts with a blank or
does not. -/
def joint (pending : Pending) (literal nextBlank : Bool) : List Char :=
  -- folding joins two lines unless one of them starts with a blank
  if !literal && pending.lineEnd == ['\n'] && !pending.blank && !nextBlank then
    if pending.empty.isEmpty then [' '] else pending.empty
  else
    pending.lineEnd ++ pending.empty

/-- The text after the last line. -/
def final (pending : Pending) : Chomp → List Char
  | .strip => []
  | .clip => pending.lineEnd
  | .keep => pending.lineEnd ++ pending.empty

end Pending

/-- The text of the lines indented to a column, and what follows.  A tab
before the column is an error. -/
def lines? (literal : Bool) (chomp : Chomp) (column : Nat) (pending : Pending) :
    List Glyph → Option (List Char × List Glyph)
  | [] => some (pending.final chomp, [])
  | glyph :: rest =>
      if pending.inLine then
        if glyph.isBreak then
          lines? literal chomp column
            { pending with inLine := false, lineEnd := [glyph.char] } rest
        else
          (lines? literal chomp column pending rest).map fun (text, after) =>
            (glyph.char :: text, after)
      else if glyph.isBreak then
        lines? literal chomp column
          { pending with empty := pending.empty ++ [glyph.char] } rest
      else if glyph.column < column && glyph.char = ' ' then
        lines? literal chomp column pending rest
      else if glyph.column < column && glyph.char = '\t' then
        none
      else if glyph.column = column then
        (lines? literal chomp column ⟨true, glyph.isBlank, [], []⟩ rest).map
          fun (text, after) =>
            (pending.joint literal glyph.isBlank ++ glyph.char :: text, after)
      else
        some (pending.final chomp, glyph :: rest)

/-- A block scalar after its indicator, inside a block with a margin. -/
def read? (literal : Bool) (margin : Nat) (glyphs : List Glyph) :
    Option (List Char × List Glyph) := do
  let (header, rest) ← header? glyphs
  let column ← match header.step with
    -- the margin is one more than the column of the parent
    | some step => some (margin - 1 + step)
    | none => (detect? 0 rest).map fun deepest => max deepest (max margin 1)
  lines? literal header.chomp column {} rest

end Block
end Yaml
end DesiredState
