/-!
# Blank characters

The blank characters are those with the Unicode property `White_Space`.  They
are what trimming removes and what separates the words of a status line.
-/

namespace DesiredState
namespace Text

/-- A blank character: one with the Unicode property `White_Space`. -/
def isBlank (c : Char) : Bool :=
  let code := c.toNat
  (0x09 ≤ code && code ≤ 0x0D) || code == 0x20 || code == 0x85 || code == 0xA0 ||
    code == 0x1680 || (0x2000 ≤ code && code ≤ 0x200A) || code == 0x2028 ||
    code == 0x2029 || code == 0x202F || code == 0x205F || code == 0x3000

/-- The characters without the blank ones at both ends. -/
def trimChars (chars : List Char) : List Char :=
  ((chars.dropWhile isBlank).reverse.dropWhile isBlank).reverse

/-- The text without the blank characters at both ends. -/
def trim (text : String) : String :=
  String.ofList (trimChars text.toList)

/-- A text of blank characters only, the empty text included. -/
def isBlankText (text : String) : Bool :=
  text.toList.all isBlank

end Text
end DesiredState
