/-!
# Hexadecimal digits

Digits of either case, and the numbers and characters that runs of
them name.
-/

namespace DesiredState
namespace Text

/-- The value of a hexadecimal digit, in either case. -/
def hexDigit? (c : Char) : Option Nat :=
  if c.isDigit then some (c.toNat - '0'.toNat)
  else if 'a' ≤ c ∧ c ≤ 'f' then some (c.toNat - 'a'.toNat + 10)
  else if 'A' ≤ c ∧ c ≤ 'F' then some (c.toNat - 'A'.toNat + 10)
  else none

/-- The number that hexadecimal digits spell after the digits worth `high`. -/
def hexFrom? (high : Nat) : List Char → Option Nat
  | [] => some high
  | c :: rest => (hexDigit? c).bind fun digit => hexFrom? (high * 16 + digit) rest

/-- The number that some hexadecimal digits spell. -/
def hexNumber? (digits : List Char) : Option Nat :=
  hexFrom? 0 digits

/-- The character with a code point. -/
def charOfCode? (code : Nat) : Option Char :=
  if code.isValidChar then some (Char.ofNat code) else none

end Text
end DesiredState
