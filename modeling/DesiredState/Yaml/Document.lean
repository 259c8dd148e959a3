import DesiredState.Yaml.Layout
import DesiredState.Yaml.Node

/-!
# Documents

A text is readable if it holds exactly one document.  In the tree of a
document every alias has been replaced by what it stands for.  Two limits keep
the tree small: how deep collections may be nested, and how many aliases may be
followed for each part of the document.
-/

namespace DesiredState
namespace Yaml

/-- A document without aliases. -/
inductive Tree where
  | scalar (content : Scalar)
  | sequence (tag : Option Tag) (items : List Tree)
  | mapping (tag : Option Tag) (members : List (Tree × Tree))
deriving Inhabited, Repr

namespace Node

/-- An anchor's number with its node, if there is one. -/
def entry (anchor : Option Nat) (node : Node) : List (Nat × Node) :=
  anchor.toList.map fun number => (number, node)

mutual

/-- The anchored nodes in a node, in the order in which they start. -/
def anchored : Node → List (Nat × Node)
  | .scalar anchor content => entry anchor (.scalar anchor content)
  | .sequence anchor tag items =>
      entry anchor (.sequence anchor tag items) ++ anchoredItems items
  | .mapping anchor tag members =>
      entry anchor (.mapping anchor tag members) ++ anchoredMembers members
  | .alias _ => []

/-- The anchored nodes in some items. -/
def anchoredItems : List Node → List (Nat × Node)
  | [] => []
  | item :: rest => anchored item ++ anchoredItems rest

/-- The anchored nodes in some members. -/
def anchoredMembers : List (Node × Node) → List (Nat × Node)
  | [] => []
  | (key, value) :: rest => anchored key ++ anchored value ++ anchoredMembers rest

end

mutual

/-- How many parts a node has: scalars and aliases count once, collections
twice, for their start and their end. -/
def size : Node → Nat
  | .sequence _ _ items => 2 + itemsSize items
  | .mapping _ _ members => 2 + membersSize members
  | _ => 1

/-- How many parts some items have. -/
def itemsSize : List Node → Nat
  | [] => 0
  | item :: rest => size item + itemsSize rest

/-- How many parts some members have. -/
def membersSize : List (Node × Node) → Nat
  | [] => 0
  | (key, value) :: rest => size key + size value + membersSize rest

end

/-- How deep collections may be nested. -/
def depthLimit : Nat := 128

/-- How many aliases may be followed for each part of a document. -/
def aliasLimit : Nat := 100

/-- What a node stands for: itself, or the anchored node if it is an alias.
The state is how many aliases may still be followed. -/
def follow (targets : List (Nat × Node)) : Node → StateT Nat Option Node
  | .alias number => fun left =>
      if left = 0 then none
      else (targets.lookup number).map fun node => (node, left - 1)
  | node => pure node

/-- The tree of a node.  `depth` collections may still be nested in each
other. -/
def toTree (targets : List (Nat × Node)) (depth : Nat) (node : Node) :
    StateT Nat Option Tree := do
  match ← follow targets node, depth with
  | .scalar _ content, _ => return .scalar content
  | .sequence _ tag items, depth + 1 =>
      return .sequence tag (← items.mapM (toTree targets depth))
  | .mapping _ tag members, depth + 1 =>
      let trees ← members.mapM fun (member : Node × Node) => do
        return (← toTree targets depth member.1, ← toTree targets depth member.2)
      return .mapping tag trees
  | _, _ => failure

/-- The tree of a document's root.  Of two nodes whose anchors share a number
an alias stands for the later one. -/
def expand? (root : Node) : Option Tree :=
  ((toTree root.anchored.reverse depthLimit root).run (aliasLimit * root.size)).map
    Prod.fst

end Node

/-- What the directives before a document declare. -/
structure Prologue where
  /-- Whether a version has been declared. -/
  versioned : Bool := false
  /-- The declared tag handles. -/
  handles : List (String × Tag) := []
deriving Inhabited, Repr

namespace Prologue

/-- The tag handles that need no declaration; a declaration takes precedence. -/
def standardHandles : List (String × Tag) :=
  [("!", .lone), ("!!", .standard "")]

/-- Whether documents of a version can be read. -/
def isKnownVersion (major minor : Nat) : Bool :=
  major == 1 && (minor == 1 || minor == 2)

/-- The declarations at the start of some tokens, and the tokens after them.
The version and each handle may be declared once. -/
def read? (prologue : Prologue) : List Token → Option (Prologue × List Token)
  | .version major minor :: rest =>
      if prologue.versioned || !isKnownVersion major minor then none
      else read? { prologue with versioned := true } rest
  | .tagHandle handle expansion :: rest =>
      if (prologue.handles.lookup handle).isSome then none
      else
        read? { prologue with handles := (handle, expansion) :: prologue.handles } rest
  | tokens => some (prologue, tokens)

/-- Whether nothing is declared. -/
def isEmpty (prologue : Prologue) : Bool :=
  !prologue.versioned && prologue.handles.isEmpty

end Prologue

namespace Node

/-- The tokens that no content starts with. -/
def isBoundary : Token → Bool
  | .version _ _ | .tagHandle _ _ | .documentStart | .documentEnd => true
  | _ => false

/-- The root of the only document that some tokens spell.  A document without
declarations needs no mark at its start; nothing may follow it but marks of
its end. -/
def ofTokens? (tokens : List Token) : Option Node := do
  let (prologue, afterPrologue) ← Prologue.read? {} tokens
  let (marked, content) ← match afterPrologue with
    | .documentStart :: rest => some (true, rest)
    | rest => if prologue.isEmpty && !rest.isEmpty then some (false, rest) else none
  if marked && content.head?.all isBoundary then
    if content.all (· == .documentEnd) then return empty else none
  else
    let handles := prologue.handles ++ Prologue.standardHandles
    let (root, feed) ← (read (4 * tokens.length + 4) .block).run ⟨content, handles, []⟩
    if feed.tokens.all (· == .documentEnd) then return root else none

end Node

namespace Tree

/-- The tree of the only document in a text. -/
def ofText? (text : String) : Option Tree :=
  (Token.ofText? text).bind fun tokens => (Node.ofTokens? tokens).bind Node.expand?

end Tree
end Yaml
end DesiredState
