/-!
# Bytes

Input arrives as bytes. It is cut into lines before it is read as text, so that a line that is not
text does not spoil the lines before it.
-/

namespace StraightLine.Text

abbrev Bytes := List UInt8

/-- The text that the bytes encode in UTF-8, if they encode one. -/
def Bytes.text? (bytes : Bytes) : Option String :=
  String.fromUTF8? bytes.toByteArray

def lineFeed : UInt8 := 10

def consLines (byte : UInt8) (lines : List Bytes) : List Bytes :=
  if byte = lineFeed then [] :: lines
  else match lines with
    | [] => [[byte]]
    | line :: rest => (byte :: line) :: rest

/-- The lines of the input, each without the line feed that ends it. The last line may lack one. -/
def Bytes.lines (bytes : Bytes) : List Bytes :=
  bytes.foldr consLines []

end StraightLine.Text
