import DesiredState.Yaml.Token

/-!
# Nodes

A YAML document is a tree of scalars, sequences and mappings.  A node may have
an anchor and a tag, and an alias stands for an anchored node.  The grammar
reads the tokens of a text from left to right; it knows two kinds of place,
inside and outside of brackets, and outside of brackets a sequence that is the
value of a mapping needs no indentation of its own.
-/

namespace DesiredState
namespace Yaml

/-- A scalar with its tag written out in full. -/
structure Scalar where
  tag : Option Tag := none
  /-- How it is written. -/
  style : Style := .plain
  text : String := ""
deriving Inhabited, Repr, DecidableEq

/-- A node of a document.  Anchors are numbers: what an alias stands for is
looked up by number. -/
inductive Node where
  | scalar (anchor : Option Nat) (content : Scalar)
  | sequence (anchor : Option Nat) (tag : Option Tag) (items : List Node)
  | mapping (anchor : Option Nat) (tag : Option Tag) (members : List (Node × Node))
  | alias (target : Nat)
deriving Inhabited, Repr

/-- The tokens that are left, and the anchors met so far, latest first. -/
structure Feed where
  /-- The tokens that are left. -/
  tokens : List Token
  /-- What the tag handles of the document stand for. -/
  handles : List (String × Tag)
  /-- The names of the anchors met so far, with their numbers. -/
  anchors : List (String × Nat) := []

namespace Feed

/-- A step that takes tokens off a feed, or fails. -/
abbrev Reading := StateT Feed Option

/-- The next token. -/
def peek : Reading (Option Token) := fun feed =>
  some (feed.tokens.head?, feed)

/-- Skips the next token. -/
def skip : Reading Unit := fun feed =>
  some ((), { feed with tokens := feed.tokens.tail })

/-- Whether one of some tokens is next. -/
def ahead (tokens : List Token) : Reading Bool := fun feed =>
  some (feed.tokens.head?.any tokens.contains, feed)

/-- Skips a token if it is next, and tells whether it was. -/
def accept (token : Token) : Reading Bool := do
  if ← ahead [token] then
    skip
    return true
  else
    return false

/-- Skips a token, which must be next. -/
def expect (token : Token) : Reading Unit := do
  if ← accept token then return () else failure

/-- Gives a number to an anchor: how many different names came before it.  An
anchor of a name that is known already may thus share its number with another
one. -/
def number (name : String) : Reading Nat := fun feed =>
  let next := (feed.anchors.map Prod.fst).eraseDups.length
  some (next, { feed with anchors := (name, next) :: feed.anchors })

/-- The number of the latest anchor of a name. -/
def numberOf (name : String) : Reading Nat := fun feed =>
  (feed.anchors.lookup name).map fun found => (found, feed)

/-- A tag written out in full; its handle must be known. -/
def expand (handle : String) (suffix : Tag) : Reading Tag := fun feed =>
  if handle.isEmpty then
    some (suffix, feed)
  else
    (feed.handles.lookup handle).map fun expansion => (expansion.append suffix, feed)

/-- The name of the next node's anchor, if the next token is one. -/
def anchorName : Reading (Option String) := do
  match ← peek with
  | some (.anchor name) => skip; return some name
  | _ => return none

/-- The next node's tag, if the next token is one. -/
def tag : Reading (Option Tag) := do
  match ← peek with
  | some (.tag handle suffix) => skip; return some (← expand handle suffix)
  | _ => return none

/-- The anchor and the tag of the next node, in either order. -/
def properties : Reading (Option Nat × Option Tag) := do
  let before ← anchorName
  let tag ← tag
  let name ← if before.isNone && tag.isSome then anchorName else pure before
  match name with
  | some found => return (some (← number found), tag)
  | none => return (none, tag)

end Feed

namespace Node

open Feed

/-- Where a node stands. -/
inductive Place where
  /-- Inside of brackets. -/
  | flow
  /-- In a block. -/
  | block
  /-- In a block mapping, where the dashes of a sequence need no indentation. -/
  | member
deriving Inhabited, Repr, DecidableEq

/-- The node that stands for nothing. -/
def empty : Node := .scalar none {}

/-- A node, or the empty one before some tokens. -/
def orEmpty (stops : List Token) (node : Reading Node) : Reading Node := do
  if ← ahead stops then return empty else node

/-- A value after its token, or the empty node. -/
def valueOrEmpty (stops : List Token) (node : Reading Node) : Reading Node := do
  if ← accept .value then orEmpty stops node else return empty

mutual

/-- The next node. -/
def read : Nat → Place → Reading Node
  | 0, _ => failure
  | fuel + 1, place => do
      if let some (.alias name) ← peek then
        skip
        return .alias (← numberOf name)
      let (anchor, tag) ← properties
      let inBlock := place != .flow
      match ← peek with
      | some (.scalar style text) =>
          skip
          return .scalar anchor { tag, style, text }
      | some .bracketOpen =>
          skip
          return .sequence anchor tag (← flowItems fuel true)
      | some .braceOpen =>
          skip
          return .mapping anchor tag (← flowMembers fuel true)
      | next =>
          if next = some .dash && place = .member then
            return .sequence anchor tag (← openItems fuel)
          else if next = some .sequenceStart && inBlock then
            skip
            return .sequence anchor tag (← blockItems fuel)
          else if next = some .mappingStart && inBlock then
            skip
            return .mapping anchor tag (← blockMembers fuel)
          -- an anchor or a tag may stand before nothing
          else if anchor.isSome || tag.isSome then
            return .scalar anchor { tag }
          else
            failure

/-- The items of a block sequence up to its end. -/
def blockItems : Nat → Reading (List Node)
  | 0 => failure
  | fuel + 1 => do
      if ← accept .blockEnd then
        return []
      expect .dash
      let item ← orEmpty [.dash, .blockEnd] (read fuel .block)
      return item :: (← blockItems fuel)

/-- The items of a sequence without indentation, up to the last one with a
dash. -/
def openItems : Nat → Reading (List Node)
  | 0 => failure
  | fuel + 1 => do
      if ← accept .dash then
        let item ← orEmpty [.dash, .key, .value, .blockEnd] (read fuel .block)
        return item :: (← openItems fuel)
      else
        return []

/-- The members of a block mapping up to its end. -/
def blockMembers : Nat → Reading (List (Node × Node))
  | 0 => failure
  | fuel + 1 => do
      if ← accept .blockEnd then
        return []
      expect .key
      let stops := [Token.key, .value, .blockEnd]
      let key ← orEmpty stops (read fuel .member)
      let value ← valueOrEmpty stops (read fuel .member)
      return (key, value) :: (← blockMembers fuel)

/-- The items of a sequence in brackets up to the closing one.  All but the
first follow a comma, and the last may have one after it. -/
def flowItems : Nat → Bool → Reading (List Node)
  | 0, _ => failure
  | fuel + 1, first => do
      if ← accept .bracketClose then
        return []
      unless first do
        expect .comma
        if ← accept .bracketClose then
          return []
      let item ← if ← accept .key then flowPair fuel else read fuel .flow
      return item :: (← flowItems fuel false)

/-- A mapping of a single member without braces, after the token of its key.
A key that is missing takes the token in its place. -/
def flowPair : Nat → Reading Node
  | 0 => failure
  | fuel + 1 => do
      let key ←
        if ← ahead [.value, .comma, .bracketClose] then
          skip
          pure empty
        else
          read fuel .flow
      let value ← valueOrEmpty [.comma, .bracketClose] (read fuel .flow)
      return .mapping none none [(key, value)]

/-- The members of a mapping in braces up to the closing one. -/
def flowMembers : Nat → Bool → Reading (List (Node × Node))
  | 0, _ => failure
  | fuel + 1, first => do
      if ← accept .braceClose then
        return []
      unless first do
        expect .comma
        if ← accept .braceClose then
          return []
      if ← accept .key then
        let key ← orEmpty [.value, .comma, .braceClose] (read fuel .flow)
        let value ← valueOrEmpty [.comma, .braceClose] (read fuel .flow)
        return (key, value) :: (← flowMembers fuel false)
      else
        let key ← read fuel .flow
        return (key, empty) :: (← flowMembers fuel false)

end

end Node
end Yaml
end DesiredState
