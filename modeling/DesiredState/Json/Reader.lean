import DesiredState.Json.Document
import DesiredState.Text.Hexadecimal

/-!
# Reading JSON text

The reader accepts the JSON grammar and nothing else: no leading zeros, no
control characters inside strings, no trailing text.  Strings are first read
as code units, so that an escaped surrogate pair is one character and an
unpaired surrogate makes the string unreadable rather than wrong.  Containers
nested deeper than `depthLimit` are unreadable as well.
-/

namespace DesiredState
namespace Json

/-- How many containers may be open at once. -/
def depthLimit : Nat := 127

/-- The characters that may stand between tokens. -/
def isSpace (c : Char) : Bool :=
  c == ' ' || c == '\t' || c == '\n' || c == '\r'

/-- The text after its leading blanks. -/
def skipSpace (chars : List Char) : List Char :=
  chars.dropWhile isSpace

/-- The character that a one-letter escape stands for. -/
def shortEscape? (c : Char) : Option Char :=
  if c = '"' || c = '\\' || c = '/' then some c
  else if c = 'b' then some '\x08'
  else if c = 'f' then some '\x0c'
  else if c = 'n' then some '\n'
  else if c = 'r' then some '\r'
  else if c = 't' then some '\t'
  else none

/-- The code units of a string up to its closing quote, and the text after the
quote.  A unit is the code point of a character or an escaped 16-bit unit. -/
def stringUnits : List Char → Option (List Nat × List Char)
  | [] => none
  | '"' :: rest => some ([], rest)
  | '\\' :: 'u' :: a :: b :: c :: d :: rest => do
      let unit ← Text.hexNumber? [a, b, c, d]
      let (units, after) ← stringUnits rest
      return (unit :: units, after)
  | '\\' :: c :: rest => do
      let char ← shortEscape? c
      let (units, after) ← stringUnits rest
      return (char.toNat :: units, after)
  | c :: rest =>
      if c.toNat < 0x20 then
        none
      else do
        let (units, after) ← stringUnits rest
        return (c.toNat :: units, after)

/-- The units that open a surrogate pair. -/
def isHighSurrogate (unit : Nat) : Bool :=
  0xD800 ≤ unit && unit ≤ 0xDBFF

/-- The units that close a surrogate pair. -/
def isLowSurrogate (unit : Nat) : Bool :=
  0xDC00 ≤ unit && unit ≤ 0xDFFF

/-- The characters that some units spell, unless a surrogate is unpaired. -/
def charsOfUnits? : List Nat → Option (List Char)
  | [] => some []
  | high :: low :: rest =>
      if isHighSurrogate high && isLowSurrogate low then
        (charsOfUnits? rest).map
          (Char.ofNat (0x10000 + (high - 0xD800) * 0x400 + (low - 0xDC00)) :: ·)
      else if isHighSurrogate high || isLowSurrogate high then
        none
      else
        (charsOfUnits? (low :: rest)).map (Char.ofNat high :: ·)
  | [unit] =>
      if isHighSurrogate unit || isLowSurrogate unit then
        none
      else
        some [Char.ofNat unit]

/-- The text of a string after its opening quote, `none` inside when it has an
unpaired surrogate. -/
def string? (chars : List Char) : Option (Option String × List Char) :=
  (stringUnits chars).map fun (units, after) =>
    ((charsOfUnits? units).map String.ofList, after)

/-- A run of at least one digit, and the text after it. -/
def digits? (chars : List Char) : Option (List Char × List Char) :=
  match chars.takeWhile Char.isDigit with
  | [] => none
  | run => some (run, chars.dropWhile Char.isDigit)

/-- The whole part of a number: a zero that no digit follows, or digits that
start with no zero. -/
def wholePart? (chars : List Char) : Option (List Char × List Char) :=
  match digits? chars with
  | some ('0' :: _ :: _, _) => none
  | other => other

/-- The fraction of a number, point included; empty when there is no point. -/
def fraction? : List Char → Option (List Char × List Char)
  | '.' :: rest => (digits? rest).map fun (run, after) => ('.' :: run, after)
  | rest => some ([], rest)

/-- The exponent of a number, letter and sign included; empty when there is no
letter. -/
def exponent? : List Char → Option (List Char × List Char)
  | [] => some ([], [])
  | c :: rest =>
      if c = 'e' || c = 'E' then
        match rest with
        | '+' :: more => (digits? more).map fun (run, after) => (c :: '+' :: run, after)
        | '-' :: more => (digits? more).map fun (run, after) => (c :: '-' :: run, after)
        | more => (digits? more).map fun (run, after) => (c :: run, after)
      else
        some ([], c :: rest)

/-- A number after its sign. -/
def unsignedNumber? (negative : Bool) (chars : List Char) : Option (Json × List Char) := do
  let (whole, afterWhole) ← wholePart? chars
  let (fraction, afterFraction) ← fraction? afterWhole
  let (exponent, after) ← exponent? afterFraction
  let sign := if negative then ['-'] else []
  if fraction.isEmpty && exponent.isEmpty && !(negative && whole == ['0']) then
    let size : Int := Nat.ofDigitChars 10 whole 0
    return (.int (if negative then -size else size), after)
  else
    return (.real (String.ofList (sign ++ whole ++ fraction ++ exponent)), after)

/-- A number. -/
def number? : List Char → Option (Json × List Char)
  | '-' :: rest => unsignedNumber? true rest
  | chars => unsignedNumber? false chars

/-- The text after a word that it must start with. -/
def afterWord? : List Char → List Char → Option (List Char)
  | [], rest => some rest
  | w :: word, c :: rest => if w = c then afterWord? word rest else none
  | _ :: _, [] => none

mutual

/-- A value at the start of a text without leading blanks, and the text after
it.  `depth` counts the containers that may still be opened. -/
def value? : Nat → Nat → List Char → Option (Json × List Char)
  | 0, _, _ => none
  | _ + 1, _, [] => none
  | fuel + 1, depth, c :: rest =>
      if c = '\x7b' then
        match skipSpace rest with
        | '\x7d' :: after => some (if depth = 0 then .unreadable else .object [], after)
        | more => do
            let (members, after) ← members? fuel (depth - 1) more
            match depth, members with
            | 0, _ => return (.unreadable, after)
            | _, some found => return (.object found, after)
            | _, none => return (.unreadable, after)
      else if c = '[' then
        match skipSpace rest with
        | ']' :: after => some (if depth = 0 then .unreadable else .array [], after)
        | more => do
            let (items, after) ← items? fuel (depth - 1) more
            return (if depth = 0 then .unreadable else .array items, after)
      else if c = '"' then do
        let (content, after) ← string? rest
        return ((content.map Json.text).getD .unreadable, after)
      else if c = 't' then do
        return (.flag true, ← afterWord? ['r', 'u', 'e'] rest)
      else if c = 'f' then do
        return (.flag false, ← afterWord? ['a', 'l', 's', 'e'] rest)
      else if c = 'n' then do
        return (.null, ← afterWord? ['u', 'l', 'l'] rest)
      else
        number? (c :: rest)

/-- The items of an array up to its closing bracket, and the text after it. -/
def items? : Nat → Nat → List Char → Option (List Json × List Char)
  | 0, _, _ => none
  | fuel + 1, depth, chars => do
      let (item, afterItem) ← value? fuel depth chars
      match skipSpace afterItem with
      | ',' :: more => do
          let (items, after) ← items? fuel depth (skipSpace more)
          return (item :: items, after)
      | ']' :: after => return ([item], after)
      | _ => none

/-- The members of an object up to its closing brace, and the text after it.
They are `none` inside when some name is unreadable. -/
def members? : Nat → Nat → List Char → Option (Option (List (String × Json)) × List Char)
  | 0, _, _ => none
  | fuel + 1, depth, chars => do
      match chars with
      | '"' :: afterQuote => do
          let (name, afterName) ← string? afterQuote
          match skipSpace afterName with
          | ':' :: beforeValue => do
              let (value, afterValue) ← value? fuel depth (skipSpace beforeValue)
              let first := name.map fun found => (found, value)
              match skipSpace afterValue with
              | ',' :: more => do
                  let (members, after) ← members? fuel depth (skipSpace more)
                  return (first.bind fun member => members.map (member :: ·), after)
              | '\x7d' :: after => return (first.map fun member => [member], after)
              | _ => none
          | _ => none
      | _ => none

end

/-- The document that a text holds, if it holds exactly one. -/
def read? (source : String) : Option Json :=
  let chars := skipSpace source.toList
  match value? (2 * chars.length + 2) depthLimit chars with
  | some (document, after) => if (skipSpace after).isEmpty then some document else none
  | none => none

end Json
end DesiredState
