/-!
# Blank characters

The characters that count as white space between tags, around numbers and around lines: the 25
characters with the `White_Space` property.
-/

namespace ProofDesk.Text

/-- Whether `c` has the `White_Space` property. -/
def isBlank (c : Char) : Bool :=
  let n := c.toNat
  (9 ≤ n && n ≤ 13) || n == 0x20 || n == 0x85 || n == 0xA0 || n == 0x1680 ||
  (0x2000 ≤ n && n ≤ 0x200A) ||
    n == 0x2028 || n == 0x2029 || n == 0x202F || n == 0x205F || n == 0x3000

/-- Whether `b` is a blank of the ASCII range: space, tab, line feed, form feed or carriage return.
The vertical tab is not one. -/
def isBlankByte (b : UInt8) : Bool :=
  b == 0x20 || b == 0x09 || b == 0x0A || b == 0x0C || b == 0x0D

/-- The text without the blanks it begins with. -/
def trimFront (cs : List Char) : List Char :=
  cs.dropWhile isBlank

/-- The text without the blanks at either end. -/
def trim (cs : List Char) : List Char :=
  ((trimFront cs).reverse.dropWhile isBlank).reverse

end ProofDesk.Text
