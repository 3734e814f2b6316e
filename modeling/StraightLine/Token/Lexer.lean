import StraightLine.Token.Cursor

/-!
# Lexers

A lexer hands out the tokens of a source one at a time. After a character that begins no token it
hands out nothing more, and asked for all that remains it then answers with no tokens and no error.
-/

namespace StraightLine.Token

/-- How far a source has been read, and whether an unknown character has been met. -/
structure Lexer where
  cursor : Cursor
  failed : Bool
deriving DecidableEq

namespace Lexer

def ofSource (source : String) : Lexer :=
  ⟨.start source, false⟩

def next (lexer : Lexer) : Option (Except UnknownCharacter Token) × Lexer :=
  if lexer.failed then (none, lexer)
  else match lexer.cursor.next? grammar with
    | none => (none, ⟨lexer.cursor.skipSpace, false⟩)
    | some (.error e) => (some (.error e), ⟨lexer.cursor.skipSpace, true⟩)
    | some (.ok (token, after)) => (some (.ok token), ⟨after, false⟩)

def after (lexer : Lexer) : Nat → Lexer
  | 0 => lexer
  | count + 1 => lexer.next.2.after count

/-- Everything that the lexer will still hand out. -/
def remaining (lexer : Lexer) : Attempt Token UnknownCharacter :=
  if lexer.failed then .finished else lexer.cursor.scan grammar

/-- The remaining tokens, provided that no unknown character is met among them. -/
def tokenize (lexer : Lexer) : Except UnknownCharacter (List Token) :=
  lexer.remaining.toExcept

end Lexer

end StraightLine.Token
