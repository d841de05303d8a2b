/-! # Blanks

The characters with the Unicode property `White_Space`, and the removal of blanks around a text.
-/

namespace FileGateway

/-- The code points with property `White_Space`. -/
def isBlank (character : Char) : Bool :=
  let code := character.toNat
  (9 ≤ code && code ≤ 13) || code == 0x20 || code == 0x85 || code == 0xa0 || code == 0x1680
    || (0x2000 ≤ code && code ≤ 0x200a) || code == 0x2028 || code == 0x2029 || code == 0x202f
    || code == 0x205f || code == 0x3000

/-- Removes from the end every element that satisfies `drops`. -/
def trimEnd {α : Type} (drops : α → Bool) (items : List α) : List α :=
  (items.reverse.dropWhile drops).reverse

/-- Removes blanks from both ends. -/
def trimBlanks (text : List Char) : List Char := trimEnd isBlank (text.dropWhile isBlank)

end FileGateway
