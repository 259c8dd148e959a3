/-!
# Decimal numbers in text

Numbers are read from ASCII digits with an optional sign and nothing else, and
are written with the fewest digits.  What is written reads back, for natural
numbers and for integers alike.
-/

namespace DesiredState
namespace Text

/-- The number spelled by a non-empty run of ASCII digits. -/
def natural? (chars : List Char) : Option Nat :=
  if chars ≠ [] ∧ chars.all Char.isDigit = true then
    some (Nat.ofDigitChars 10 chars 0)
  else
    none

/-- The integer spelled by ASCII digits with an optional sign. -/
def integer? : List Char → Option Int
  | '-' :: digits => (natural? digits).map fun n => -(n : Int)
  | '+' :: digits => (natural? digits).map Int.ofNat
  | digits => (natural? digits).map Int.ofNat

/-- The largest signed 64-bit number. -/
def int64Max : Int := 9223372036854775807

/-- The smallest signed 64-bit number. -/
def int64Min : Int := -9223372036854775808

/-- Whether a number fits in 64 bits with a sign. -/
def fitsInt64 (n : Int) : Bool :=
  decide (int64Min ≤ n) && decide (n ≤ int64Max)

/-- The signed 64-bit integer that a text spells. -/
def readInt64 (text : String) : Option Int :=
  (integer? text.toList).filter fitsInt64

/-- The unsigned number of at most `limit` that some characters spell; a plus
sign is allowed, a minus sign is not. -/
def unsigned? (limit : Nat) : List Char → Option Nat
  | '+' :: digits => (natural? digits).filter fun n => decide (n ≤ limit)
  | digits => (natural? digits).filter fun n => decide (n ≤ limit)

/-- The largest unsigned 32-bit number. -/
def word32Max : Nat := 4294967295

/-- The digits written for a number are read back as that number. -/
theorem natural?_toDigits (n : Nat) : natural? (Nat.toDigits 10 n) = some n := by
  have hdigits : (Nat.toDigits 10 n).all Char.isDigit = true := by
    rw [List.all_eq_true]
    intro c hc
    exact Nat.isDigit_of_mem_toDigits (by decide) (by decide) hc
  simp [natural?, hdigits, Nat.toDigits_ne_nil, Nat.ofDigitChars_ten_toDigits]

end Text
end DesiredState
