import DacBank.Text.Ranges

namespace DacBank.Text

def whiteSpaceRanges : Ranges := [
  (0x9, 0xd), (0x20, 0x20), (0x85, 0x85), (0xa0, 0xa0), (0x1680, 0x1680), (0x2000, 0x200a),
  (0x2028, 0x2029), (0x202f, 0x202f), (0x205f, 0x205f), (0x3000, 0x3000)]

example : whiteSpaceRanges.ascend = true ∧ whiteSpaceRanges.count = 25 := by decide +kernel

def isWhiteSpace (c : Char) : Bool :=
  whiteSpaceRanges.holds c

/-- A text without the white space at both ends. -/
def trim (s : List Char) : List Char :=
  ((s.dropWhile isWhiteSpace).reverse.dropWhile isWhiteSpace).reverse

end DacBank.Text
