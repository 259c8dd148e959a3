/-!
# JSON documents

A JSON text as a tree.  Object members keep their order and may repeat a name;
what a repeated name means is up to the reader of the tree.  A part of a text
that keeps to the grammar but has no value is kept as `unreadable`: a string
with an unpaired surrogate, a container nested too deeply.  Such a part does
no harm where it is ignored.
-/

namespace DesiredState

/-- A JSON document. -/
inductive Json where
  | null
  | flag (on : Bool)
  /-- A number written without fraction and exponent; minus zero is none. -/
  | int (number : Int)
  /-- Any other number, as it is written. -/
  | real (literal : String)
  | text (content : String)
  | array (items : List Json)
  | object (members : List (String × Json))
  /-- A part of a text that scans and has no value. -/
  | unreadable
deriving Inhabited, Repr

namespace Json

/-- The two-digit hexadecimal spelling of a control character. -/
def controlDigits (code : Nat) : List Char :=
  [Nat.digitChar (code / 16), Nat.digitChar (code % 16)]

/-- A character as it is written inside a JSON string.  Quotes, backslashes and
control characters are escaped; everything else stands for itself. -/
def escapeChar (c : Char) : List Char :=
  if c = '"' then ['\\', '"']
  else if c = '\\' then ['\\', '\\']
  else if c = '\x08' then ['\\', 'b']
  else if c = '\x0c' then ['\\', 'f']
  else if c = '\n' then ['\\', 'n']
  else if c = '\r' then ['\\', 'r']
  else if c = '\t' then ['\\', 't']
  else if c.toNat < 0x20 then '\\' :: 'u' :: '0' :: '0' :: controlDigits c.toNat
  else [c]

/-- A text as a JSON string, quotes included. -/
def quote (content : String) : String :=
  "\"" ++ String.ofList (content.toList.flatMap escapeChar) ++ "\""

/-- The spelling of a document without containers. -/
def scalarText : Json → String
  | .flag on => if on then "true" else "false"
  | .int number => toString number
  | .real literal => literal
  | .text content => quote content
  | _ => "null"

mutual

/-- The compact text of a document: no blanks at all. -/
def compact : Json → String
  | .array items => "[" ++ compactItems items ++ "]"
  | .object members => "\x7b" ++ compactMembers members ++ "\x7d"
  | scalar => scalarText scalar

/-- The items of an array, separated by commas. -/
def compactItems : List Json → String
  | [] => ""
  | [item] => compact item
  | item :: rest => compact item ++ "," ++ compactItems rest

/-- The members of an object, separated by commas. -/
def compactMembers : List (String × Json) → String
  | [] => ""
  | [(name, value)] => quote name ++ ":" ++ compact value
  | (name, value) :: rest =>
      quote name ++ ":" ++ compact value ++ "," ++ compactMembers rest

end

/-- A line break followed by two blanks for each level of nesting. -/
def newline (depth : Nat) : String :=
  String.ofList ('\n' :: List.replicate (2 * depth) ' ')

mutual

/-- The indented text of a document at some depth of nesting: each item and
member has a line of its own, and empty containers stay on one line. -/
def prettyAt (depth : Nat) : Json → String
  | .array [] => "[]"
  | .array (item :: rest) =>
      "[" ++ prettyItems (depth + 1) (item :: rest) ++ newline depth ++ "]"
  | .object [] => "\x7b\x7d"
  | .object (member :: rest) =>
      "\x7b" ++ prettyMembers (depth + 1) (member :: rest) ++ newline depth ++ "\x7d"
  | scalar => scalarText scalar

/-- The items of an array, each on a line of its own. -/
def prettyItems (depth : Nat) : List Json → String
  | [] => ""
  | [item] => newline depth ++ prettyAt depth item
  | item :: rest =>
      newline depth ++ prettyAt depth item ++ "," ++ prettyItems depth rest

/-- The members of an object, each on a line of its own. -/
def prettyMembers (depth : Nat) : List (String × Json) → String
  | [] => ""
  | [(name, value)] => newline depth ++ quote name ++ ": " ++ prettyAt depth value
  | (name, value) :: rest =>
      newline depth ++ quote name ++ ": " ++ prettyAt depth value ++ "," ++
        prettyMembers depth rest

end

/-- The indented text of a document. -/
def pretty (document : Json) : String :=
  prettyAt 0 document

end Json
end DesiredState
