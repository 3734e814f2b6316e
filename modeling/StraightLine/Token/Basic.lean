import StraightLine.Position
import StraightLine.Text.Quoted

/-!
# Tokens

A token is a piece of the source with its kind and the place where it stands. Its text is kept as it
was written: the text of a number is never turned into a number.
-/

namespace StraightLine

inductive Token.Kind
  | keyword
  | identifier
  | number
  | assign
  | operator
  | semicolon
  | leftParen
  | rightParen
deriving DecidableEq

def Token.Kind.name : Token.Kind → String
  | keyword => "KEYWORD"
  | identifier => "IDENTIFIER"
  | number => "NUMBER"
  | assign => "ASSIGN"
  | operator => "OPERATOR"
  | semicolon => "SEMICOLON"
  | leftParen => "LPAREN"
  | rightParen => "RPAREN"

/-- A piece of the source, with the place of its first character. -/
structure Token where
  kind : Token.Kind
  lexeme : String
  position : Position
deriving DecidableEq

namespace Token

/-- The place just past the last character; the text of a token lies on one line. -/
def stop (token : Token) : Position where
  offset := token.position.offset + token.lexeme.utf8ByteSize
  line := token.position.line
  column := token.position.column + token.lexeme.length

/-- The token as reports show it: kind, quoted text, and place. -/
def render (token : Token) : String :=
  s!"({token.kind.name}, {Text.quote token.lexeme}) at {token.position.render}"

end Token

end StraightLine
