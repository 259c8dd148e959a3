import DesiredState.Yaml.Block
import DesiredState.Yaml.Plain
import DesiredState.Yaml.Property
import DesiredState.Yaml.Quoted

/-!
# Layout

The layout of a text turns its glyphs into tokens.  It follows the indentation
with a stack of margins: a block collection at column `n` has the margin
`n + 1`, where its nested content may start, and the text as a whole has the
margin zero.  A key without an indicator is known as one only when its colon
is met, so the layout remembers where such a key may have started, once for
each level of brackets, and puts the missing tokens there.
-/

namespace DesiredState
namespace Yaml

/-- A place where a key without an indicator may have started. -/
structure KeySpot where
  /-- Whether the text is wrong if no key starts here. -/
  required : Bool
  /-- How many tokens stand before it. -/
  position : Nat
  start : Glyph
deriving Inhabited, Repr

namespace KeySpot

/-- How many octets a key without an indicator may have at most. -/
def reach : Nat := 1024

/-- Whether the colon of a key that starts here may still come: it must be on
the same line and within reach. -/
def reaches (spot : KeySpot) (here : Glyph) : Bool :=
  here.line ≤ spot.start.line && here.index ≤ spot.start.index + reach

end KeySpot

/-- The tokens found so far, and what the next one depends on. -/
structure Layout where
  /-- The glyphs that are left. -/
  rest : List Glyph
  /-- The tokens found so far. -/
  tokens : Array Token := #[]
  /-- The column where content nested in the current block may start. -/
  margin : Nat := 0
  /-- The margins of the blocks around the current one, inside out. -/
  margins : List Nat := []
  /-- Where a key may have started on the current level of brackets. -/
  spot : Option KeySpot := none
  /-- The same for the levels around it, inside out. -/
  outer : List (Option KeySpot) := []
  /-- Whether a key without an indicator may start here. -/
  fresh : Bool := true
deriving Inhabited, Repr

namespace Layout

/-- Whether the layout is inside of brackets. -/
def inFlow (layout : Layout) : Bool :=
  !layout.outer.isEmpty

/-- One more token, and the glyphs after it. -/
def emit (layout : Layout) (token : Token) (rest : List Glyph) : Layout :=
  { layout with tokens := layout.tokens.push token, rest }

/-! ## Margins -/

/-- The block ends for margins that are left, up to one that admits a
collection at a column. -/
def dedentFrom (column : Nat) : Nat → List Nat → Nat × List Nat × List Token
  | margin, [] => (margin, [], [])
  | margin, outer :: margins =>
      if column + 1 < margin then
        let (next, left, ends) := dedentFrom column outer margins
        (next, left, .blockEnd :: ends)
      else
        (margin, outer :: margins, [])

/-- Ends the blocks that are indented deeper than a column.  Inside of
brackets indentation has no meaning. -/
def dedent (column : Nat) (layout : Layout) : Layout :=
  if layout.inFlow then
    layout
  else
    let (margin, margins, ends) := dedentFrom column layout.margin layout.margins
    { layout with margin, margins, tokens := layout.tokens ++ ends.toArray }

/-- Ends all blocks. -/
def dedentAll (layout : Layout) : Layout :=
  if layout.inFlow then
    layout
  else
    { layout with
      margin := 0
      margins := []
      tokens := layout.tokens ++ (layout.margins.map fun _ => Token.blockEnd).toArray }

/-- Starts a block at a column if it is indented deeper than the current one.
Its token goes before the token at a position. -/
def indent (column position : Nat) (token : Token) (layout : Layout) : Layout :=
  if !layout.inFlow && layout.margin ≤ column then
    { layout with
      margin := column + 1
      margins := layout.margin :: layout.margins
      tokens := layout.tokens.insertIdxIfInBounds position token }
  else
    layout

/-! ## Key spots -/

/-- Gives up the place where a key may have started on the current level, if
no key has to start there. -/
def dropSpot? (layout : Layout) : Option Layout :=
  if layout.spot.any KeySpot.required then none else some { layout with spot := none }

/-- Remembers that a key may start at a glyph, if one may.  At the column of
the current block it has to. -/
def saveSpot? (glyph : Glyph) (layout : Layout) : Option Layout :=
  if layout.fresh then
    (dropSpot? layout).map fun dropped =>
      { dropped with
        spot := some
          ⟨!layout.inFlow && layout.margin == glyph.column + 1, layout.tokens.size, glyph⟩ }
  else
    some layout

/-- Gives up the places that are out of reach of a glyph, if no key has to
start there. -/
def dropStale? (here : Glyph) (layout : Layout) : Option Layout :=
  let stale := fun spot : KeySpot => !spot.reaches here
  let kept := fun spot : Option KeySpot => spot.filter fun found => found.reaches here
  -- a key that has to start somewhere must not get out of reach
  if (layout.spot :: layout.outer).any fun spot =>
      spot.any fun found => stale found && found.required then
    none
  else
    some { layout with spot := kept layout.spot, outer := layout.outer.map kept }

/-! ## Between tokens -/

/-- The glyphs from the next token on, and whether a key without an indicator
may start there.  Blanks, comments and line breaks are skipped, and so is a
byte order mark at the start of a line; a tab is skipped only where no key may
start.  Outside of brackets a key may start on every new line. -/
def approach (inFlow comment fresh : Bool) : List Glyph → Bool × List Glyph
  | [] => (fresh, [])
  | glyph :: rest =>
      if glyph.isBreak then
        approach inFlow false (fresh || !inFlow) rest
      else if comment || glyph.char = ' ' ||
          (glyph.char = '\t' && (inFlow || !fresh)) ||
          (glyph.char = '\ufeff' && glyph.column = 0) then
        approach inFlow comment fresh rest
      else if glyph.char = '#' then
        approach inFlow true fresh rest
      else
        (fresh, glyph :: rest)

/-! ## Tokens -/

/-- A directive or the mark of a document's start or end: all blocks end, and
no key may start right after it. -/
def outermost? (layout : Layout) (token : Token) (rest : List Glyph) : Option Layout := do
  let ended ← layout.dedentAll.dropSpot?
  return { ended with fresh := false }.emit token rest

/-- An opening bracket or brace: a key may start at it and after it. -/
def openFlow? (layout : Layout) (glyph : Glyph) (token : Token) (rest : List Glyph) :
    Option Layout := do
  let saved ← layout.saveSpot? glyph
  return { saved with spot := none, outer := saved.spot :: saved.outer, fresh := true }.emit
    token rest

/-- A closing bracket or brace: the level around it is the current one again. -/
def closeFlow? (layout : Layout) (token : Token) (rest : List Glyph) : Option Layout := do
  let dropped ← layout.dropSpot?
  let closed := match dropped.outer with
    | [] => dropped
    | spot :: outer => { dropped with spot, outer }
  return { closed with fresh := false }.emit token rest

/-- A comma: a key may start after it. -/
def comma? (layout : Layout) (rest : List Glyph) : Option Layout := do
  let dropped ← layout.dropSpot?
  return { dropped with fresh := true }.emit .comma rest

/-- An indicator at the start of a block's entry.  Outside of brackets it must
stand where a key may start, and starts a block if it is indented deeper. -/
def enterBlock? (layout : Layout) (glyph : Glyph) (token : Token) : Option Layout :=
  if layout.inFlow then some layout
  else if layout.fresh then some (layout.indent glyph.column layout.tokens.size token)
  else none

/-- The dash of an item. -/
def dash? (layout : Layout) (glyph : Glyph) (rest : List Glyph) : Option Layout := do
  let entered ← layout.enterBlock? glyph .sequenceStart
  let dropped ← entered.dropSpot?
  return { dropped with fresh := true }.emit .dash rest

/-- The question mark of a key. -/
def key? (layout : Layout) (glyph : Glyph) (rest : List Glyph) : Option Layout := do
  let entered ← layout.enterBlock? glyph .mappingStart
  let dropped ← entered.dropSpot?
  return { dropped with fresh := !layout.inFlow }.emit .key rest

/-- The colon of a value.  It completes the key that has started before it, if
there is one, and the key's token is put in place. -/
def value? (layout : Layout) (glyph : Glyph) (rest : List Glyph) : Option Layout :=
  match layout.spot with
  | some spot =>
      let keyed :=
        { layout with
          tokens := layout.tokens.insertIdxIfInBounds spot.position .key
          spot := none
          fresh := false }
      -- the key goes in first, so that the start of a mapping comes before it
      some ((keyed.indent spot.start.column spot.position .mappingStart).emit .value rest)
  | none => do
      let entered ← layout.enterBlock? glyph .mappingStart
      return { entered with fresh := !layout.inFlow }.emit .value rest

/-- A part of a node that a key may start with, read from the glyphs after its
first one. -/
def part? (layout : Layout) (glyph : Glyph) (found : Option (Token × List Glyph)) :
    Option Layout := do
  let saved ← layout.saveSpot? glyph
  let (token, rest) ← found
  return { saved with fresh := false }.emit token rest

/-- A plain scalar.  If it ends on another line, a key may start after it. -/
def plain? (layout : Layout) (glyph : Glyph) : Option Layout := do
  let saved ← layout.saveSpot? glyph
  let (text, gap, rest) ← Plain.read? layout.inFlow layout.margin .none layout.rest
  return { saved with fresh := gap.crossesLines }.emit
    (.scalar .plain (String.ofList text)) rest

/-- A block scalar; a key may start after it. -/
def block? (layout : Layout) (literal : Bool) (rest : List Glyph) : Option Layout := do
  let dropped ← layout.dropSpot?
  let (text, after) ← Block.read? literal layout.margin rest
  return { dropped with fresh := true }.emit
    (.scalar (if literal then .literal else .folded) (String.ofList text)) after

/-- A text read after an indicator, as a token. -/
def asToken {α : Type} (make : α → Token) (found : Option (α × List Glyph)) :
    Option (Token × List Glyph) :=
  found.map fun (content, rest) => (make content, rest)

/-- The next token, which starts with a glyph that is no gap. -/
def token? (layout : Layout) (glyph : Glyph) (rest : List Glyph) : Option Layout :=
  let spaced := Glyph.gapAhead rest
  let flow := layout.inFlow
  if glyph.column = 0 && glyph.char = '%' then do
    let (token, after) ← Property.directive? rest
    layout.outermost? token after
  else if Glyph.tripleAhead '-' layout.rest then
    layout.outermost? .documentStart (rest.drop 2)
  else if Glyph.tripleAhead '.' layout.rest then
    layout.outermost? .documentEnd (rest.drop 2)
  else match glyph.char with
  | '[' => layout.openFlow? glyph .bracketOpen rest
  | '\x7b' => layout.openFlow? glyph .braceOpen rest
  | ']' => layout.closeFlow? .bracketClose rest
  | '\x7d' => layout.closeFlow? .braceClose rest
  | ',' => layout.comma? rest
  | '*' => layout.part? glyph (asToken .alias (Property.name? rest))
  | '&' => layout.part? glyph (asToken .anchor (Property.name? rest))
  | '!' => layout.part? glyph (Property.tag? flow rest)
  | '\'' => layout.part? glyph
      (asToken (.scalar .quoted ∘ String.ofList) (Quoted.read? '\'' rest))
  | '"' => layout.part? glyph
      (asToken (.scalar .quoted ∘ String.ofList) (Quoted.read? '"' rest))
  | c =>
      -- without a gap after them these start a plain scalar
      if c = '-' && spaced then layout.dash? glyph rest
      else if c = '?' && (flow || spaced) then layout.key? glyph rest
      else if c = ':' && (flow || spaced) then layout.value? glyph rest
      else if c = '|' && !flow then layout.block? true rest
      else if c = '>' && !flow then layout.block? false rest
      else if Plain.startsAt flow layout.rest then layout.plain? glyph
      else none

/-- The tokens from here to the end of the text.  Every token takes at least
one glyph, so as many steps as there are glyphs are enough. -/
def tokens? : Nat → Layout → Option (List Token)
  | 0, _ => none
  | fuel + 1, layout =>
      let (fresh, rest) := approach layout.inFlow false layout.fresh layout.rest
      match rest with
      | [] => layout.dedentAll.dropSpot?.map fun ended => ended.tokens.toList
      | glyph :: after => do
          let current ← { layout with fresh, rest }.dropStale? glyph
          let next ← (current.dedent glyph.column).token? glyph after
          next.tokens? fuel

end Layout

namespace Token

/-- The tokens of a text. -/
def ofText? (text : String) : Option (List Token) := do
  let glyphs ← Glyph.ofText? text
  Layout.tokens? (glyphs.length + 1) { rest := glyphs }

end Token
end Yaml
end DesiredState
