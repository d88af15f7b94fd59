/-!
Classes of characters that are given by ranges of code points.
-/
namespace AttemptLog.Text

/-- ranges of code points, both ends included -/
abbrev Ranges := List (Nat × Nat)

def Ranges.has (ranges : Ranges) (code : Nat) : Bool :=
  ranges.any fun range => range.1 ≤ code && code ≤ range.2

def blankRanges : Ranges :=
  [(0x9, 0xD), (0x20, 0x20), (0x85, 0x85), (0xA0, 0xA0), (0x1680, 0x1680), (0x2000, 0x200A), (0x2028, 0x2029),
    (0x202F, 0x202F), (0x205F, 0x205F), (0x3000, 0x3000)]

def isBlank (c : Char) : Bool := blankRanges.has c.toNat

/-- characters without the white space in front -/
def skipBlanks (chars : List Char) : List Char := chars.dropWhile isBlank

/-- characters without the white space at both ends -/
def trim (chars : List Char) : List Char := (skipBlanks (skipBlanks chars).reverse).reverse

end AttemptLog.Text
