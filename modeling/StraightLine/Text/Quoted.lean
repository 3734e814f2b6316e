import StraightLine.Text.Extending
import StraightLine.Text.Graphic

/-!
# Quoted text

A text is quoted by standing between double quotes with every character that could mislead the eye
escaped. A quote and a backslash get a backslash; the null character, the tab and the two line
breaks have a letter each; every other character that is not plainly visible is given by its code
point. The escape of a character never holds a line feed, so quoted text stays on one line.
-/

namespace StraightLine.Text

/-- Whether a character is written as itself: graphic, and not drawn as part of its neighbour. -/
def isPlain (c : Char) : Bool :=
  isGraphic c && !isExtending c

/-- A character given by its code point, in lower-case hexadecimal digits without leading zeros. -/
def codePointEscape (c : Char) : List Char :=
  ['\\', 'u', '\x7b'] ++ Nat.toDigits 16 c.toNat ++ ['\x7d']

def escape (c : Char) : List Char :=
  match c with
  | '"' => ['\\', '"']
  | '\\' => ['\\', '\\']
  | '\x00' => ['\\', '0']
  | '\t' => ['\\', 't']
  | '\n' => ['\\', 'n']
  | '\r' => ['\\', 'r']
  | c => if isPlain c then [c] else codePointEscape c

/-- The text between double quotes, its characters escaped where needed. -/
def quote (text : String) : String :=
  .ofList ('"' :: text.toList.flatMap escape ++ ['"'])

end StraightLine.Text
