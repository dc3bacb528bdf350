/-!
# White space

The characters with the Unicode property White_Space. The separators U+001C to U+001F, the
zero-width characters and the byte order mark are not among them.
-/
namespace Gridwalk.Blank

/-- The inclusive ranges of code points with the property. -/
def ranges : List (Nat × Nat) :=
  [(0x09, 0x0D), (0x20, 0x20), (0x85, 0x85), (0xA0, 0xA0), (0x1680, 0x1680), (0x2000, 0x200A),
   (0x2028, 0x2029), (0x202F, 0x202F), (0x205F, 0x205F), (0x3000, 0x3000)]

def isBlank (c : Char) : Bool := ranges.any fun (lo, hi) => lo ≤ c.toNat && c.toNat ≤ hi

def trimStart (text : List Char) : List Char := text.dropWhile isBlank

def trimEnd (text : List Char) : List Char := (text.reverse.dropWhile isBlank).reverse

/-- The text without the white space around it; white space inside stays. -/
def trim (text : List Char) : List Char := trimEnd (trimStart text)

end Gridwalk.Blank
