/-! # Blanks at the ends of a text

The characters with the Unicode property `White_Space`, and trimming by them.
-/

namespace Courier.Text

/-- The characters of the Unicode property `White_Space`. -/
def isBlank (c : Char) : Bool :=
  let value := c.toNat
  (0x09 ≤ value && value ≤ 0x0D) || value == 0x20 || value == 0x85 || value == 0xA0 ||
    value == 0x1680 || (0x2000 ≤ value && value ≤ 0x200A) || value == 0x2028 || value == 0x2029 ||
    value == 0x202F || value == 0x205F || value == 0x3000

/-- A list without its first and last members of a class. -/
def stripList {α : Type} (drop : α → Bool) (items : List α) : List α :=
  ((items.dropWhile drop).reverse.dropWhile drop).reverse

/-- A text without the blanks at its two ends. -/
def trim (text : String) : String := String.ofList (stripList isBlank text.toList)

/-- An ASCII capital as its small letter; every other character as it is. -/
def lowerAscii (text : String) : String := String.ofList (text.toList.map Char.toLower)

end Courier.Text
