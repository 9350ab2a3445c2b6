/-!
# Blanks

The characters Unicode counts as white space, and texts without them at their ends.
-/

namespace RegistrySync.Text

/-- White space in the sense of Unicode. -/
def isBlank (c : Char) : Bool :=
  let n := c.toNat
  (9 ≤ n && n ≤ 13) || n == 0x20 || n == 0x85 || n == 0xA0 || n == 0x1680 ||
    (0x2000 ≤ n && n ≤ 0x200A) || n == 0x2028 || n == 0x2029 || n == 0x202F || n == 0x205F ||
    n == 0x3000

/-- `cs` without the characters at its two ends that satisfy `p`. -/
def trimBy (p : Char → Bool) (cs : List Char) : List Char :=
  ((cs.dropWhile p).reverse.dropWhile p).reverse

/-- The text without blanks at its ends. -/
def trim (text : String) : String := String.ofList (trimBy isBlank text.toList)

end RegistrySync.Text
