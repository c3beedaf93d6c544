/-!
# White space

White space is the Unicode property White_Space: the ASCII blanks, the next-line
control, and the space, line and paragraph separators.
-/

namespace RedisClient

namespace Blank

/-- Whether a character is white space. -/
def isBlank (c : Char) : Bool :=
  let n := c.toNat
  (9 ≤ n && n ≤ 13) || n == 0x20 || n == 0x85 || n == 0xA0 || n == 0x1680 ||
    (0x2000 ≤ n && n ≤ 0x200A) || n == 0x2028 || n == 0x2029 || n == 0x202F || n == 0x205F ||
    n == 0x3000

/-- A text without the white space at both ends. -/
def trim (text : List Char) : List Char :=
  ((text.dropWhile isBlank).reverse.dropWhile isBlank).reverse

/-- Whether a text has nothing but white space. -/
def isBlankText (text : String) : Bool := text.toList.all isBlank

end Blank

end RedisClient
