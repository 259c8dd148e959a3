import DesiredState.Text.Decimal
import DesiredState.Text.Hexadecimal
import DesiredState.Yaml.Node

/-!
# What scalars mean

A plain scalar without a tag is nothing, a truth value, an integer, a real
number or a text, in this order; every other scalar without a tag is a text.
The tags of the standard types force a type on a scalar, and a scalar that is
not of its type means nothing at all.  A local tag gives a name, which leaves a
scalar without a meaning; one that gives none is as good as no tag.  A run of
digits that starts with a zero is a text.
-/

namespace DesiredState
namespace Yaml

/-- What a scalar means. -/
inductive Meaning where
  | null
  | flag (on : Bool)
  | int (number : Int)
  /-- A real number that is written as such; its value is of no interest. -/
  | real
  | text (content : String)
deriving Inhabited, Repr, DecidableEq

namespace Meaning

/-- The words for nothing. -/
def isNullWord (text : String) : Bool :=
  ["~", "null", "Null", "NULL"].contains text

/-- The truth value that a word names. -/
def flag? (text : String) : Option Bool :=
  if ["true", "True", "TRUE"].contains text then some true
  else if ["false", "False", "FALSE"].contains text then some false
  else none

/-- The characters without a sign at their start. -/
def unsigned : List Char → List Char
  | '-' :: rest => rest
  | '+' :: rest => rest
  | chars => chars

/-- Two or more digits, the first of which is zero, after an optional sign. -/
def isPadded (chars : List Char) : Bool :=
  match unsigned chars with
  | '0' :: c :: rest => (c :: rest).all Char.isDigit
  | _ => false

/-- The number that digits of a base spell.  There must be at least one. -/
def natural? (base : Nat) (chars : List Char) : Option Nat :=
  if chars.isEmpty then none
  else chars.foldlM (fun high c =>
    ((Text.hexDigit? c).filter (· < base)).map fun digit => high * base + digit) 0

/-- The size of an integer without a sign: hexadecimal, octal or binary digits
after a mark, or decimal digits. -/
def size? : List Char → Option Nat
  | '0' :: 'x' :: digits => natural? 16 digits
  | '0' :: 'o' :: digits => natural? 8 digits
  | '0' :: 'b' :: digits => natural? 2 digits
  | digits => natural? 10 digits

/-- The integer that a scalar spells.  It has at most 128 bits. -/
def int? (chars : List Char) : Option Int :=
  if isPadded chars then
    none
  else
    match chars with
    | '-' :: rest => ((size? rest).filter (· ≤ Nat.pow 2 127)).map fun n => -(n : Int)
    | '+' :: rest => ((size? rest).filter (· < Nat.pow 2 128)).map Int.ofNat
    | rest => ((size? rest).filter (· < Nat.pow 2 128)).map Int.ofNat

/-- The exponent of a real number; zero when there is none. -/
def exponent? : List Char → Option Int
  | [] => some 0
  | c :: digits => if c = 'e' || c = 'E' then Text.integer? digits else none

/-- The digits of a real number without a sign, and the power of ten that
their value is to be multiplied with.  There is at least one digit, before or
after the point. -/
def decimal? (chars : List Char) : Option (List Char × Int) :=
  let whole := chars.takeWhile Char.isDigit
  let afterWhole := chars.dropWhile Char.isDigit
  let (fraction, rest) := match afterWhole with
    | '.' :: more => (more.takeWhile Char.isDigit, more.dropWhile Char.isDigit)
    | other => ([], other)
  if whole.isEmpty && fraction.isEmpty then
    none
  else
    (exponent? rest).map fun exponent => (whole ++ fraction, exponent - fraction.length)

/-- The least size that no binary number of 64 bits is close enough to. -/
def overflow : Nat := Nat.pow 2 1024 - Nat.pow 2 970

/-- Whether a decimal number is small enough for a binary number of 64 bits. -/
def isFinite (digits : List Char) (exponent : Int) : Bool :=
  let significant := digits.dropWhile (· == '0')
  let magnitude := significant.length + exponent
  if significant.isEmpty || magnitude < 300 then true
  else if 320 < magnitude then false
  else
    let size := Nat.ofDigitChars 10 significant 0
    if 0 ≤ exponent then size * Nat.pow 10 exponent.toNat < overflow
    else size < overflow * Nat.pow 10 (-exponent).toNat

/-- Whether a scalar spells a real number: one in decimal that is not too
large, an infinity, or the word for no number. -/
def isReal (text : String) : Bool :=
  let chars := text.toList
  let infinities := [".inf", ".Inf", ".INF"]
  infinities.contains (String.ofList (unsigned chars)) ||
    [".nan", ".NaN", ".NAN"].contains text ||
    match decimal? (unsigned chars) with
    | some (digits, exponent) => isFinite digits exponent
    | none => false

/-- What a plain scalar without a tag means. -/
def ofPlain (text : String) : Meaning :=
  if text.isEmpty || isNullWord text then .null
  else match flag? text, int? text.toList with
  | some on, _ => .flag on
  | none, some number => .int number
  | none, none =>
      if !isPadded text.toList && isReal text then .real else .text text

/-- What a text means that is written in a style, without a tag. -/
def ofStyled (style : Style) (text : String) : Meaning :=
  if style = .plain then ofPlain text else .text text

/-- What a scalar means under a tag, if anything. -/
def ofTagged? (tag : Tag) (style : Style) (text : String) : Option Meaning :=
  if tag == .standard "bool" then (flag? text).map .flag
  else if tag == .standard "int" then (int? text.toList).map .int
  else if tag == .standard "float" then if isReal text then some .real else none
  else if tag == .standard "null" then if isNullWord text then some .null else none
  else if tag.localName?.isSome then none
  else if tag.isLocal then some (ofStyled style text)
  else some (.text text)

/-- What a scalar means, if anything. -/
def ofScalar? (scalar : Scalar) : Option Meaning :=
  match scalar.tag with
  | some tag => ofTagged? tag scalar.style scalar.text
  | none => some (ofStyled scalar.style scalar.text)

end Meaning
end Yaml
end DesiredState
