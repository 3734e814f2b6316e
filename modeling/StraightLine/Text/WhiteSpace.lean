import StraightLine.Text.CharClass

/-!
# White space

The class of characters with the property `White_Space`, and the two ways in which text is taken
apart at them: `trim` removes what stands at either end, `words` gives what stands between.
-/

namespace StraightLine.Text

def whiteSpace : CharClass where
  ranges :=
    [(0x9, 0xD), (0x20, 0x20), (0x85, 0x85), (0xA0, 0xA0), (0x1680, 0x1680), (0x2000, 0x200A),
     (0x2028, 0x2029), (0x202F, 0x202F), (0x205F, 0x205F), (0x3000, 0x3000)]
  ordered := by decide +kernel

def isWhiteSpace (c : Char) : Bool :=
  whiteSpace.contains c

/-- The text without the white space at its two ends. -/
def trim (text : String) : String :=
  let opened := text.toList.dropWhile isWhiteSpace
  .ofList (opened.reverse.dropWhile isWhiteSpace).reverse

/-- The longest pieces of the text that hold no white space, in order. -/
def words (text : String) : List String :=
  ((text.toList.splitOnP isWhiteSpace).filter fun piece ↦ !piece.isEmpty).map .ofList

end StraightLine.Text
