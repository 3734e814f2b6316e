import StraightLine.Text.Listing
import StraightLine.Token.Basic

/-!
# Programs

A program is a list of assignments. Each gives a name the value of a number or of another name. The
tree keeps the tokens it was read from, so that every part of it can be traced to its place.
-/

namespace StraightLine

/-- What stands to the right of an assignment. -/
inductive Operand
  | number (token : Token)
  | identifier (token : Token)
deriving DecidableEq

namespace Operand

/-- The operand that a token is, if its kind is that of a number or a name. -/
def ofToken? (token : Token) : Option Operand :=
  match token.kind with
  | .number => some (number token)
  | .identifier => some (identifier token)
  | _ => none

def token : Operand → Token
  | number token => token
  | identifier token => token

def lexeme (operand : Operand) : String :=
  operand.token.lexeme

theorem token_of_ofToken? {token : Token} {operand : Operand}
    (h : ofToken? token = some operand) : operand.token = token := by
  unfold ofToken? at h
  split at h <;> cases h <;> rfl

end Operand

/-- The assignment of an operand to the name that a token spells. -/
structure Assignment where
  target : Token
  value : Operand
deriving DecidableEq

namespace Assignment

def name (statement : Assignment) : String :=
  statement.target.lexeme

def line (statement : Assignment) : Nat :=
  statement.target.position.line

/-- The assignment as a tree: operator, name, value. -/
def render (statement : Assignment) : String :=
  s!"(= {statement.name} {statement.value.lexeme})"

end Assignment

abbrev Program := List Assignment

def Program.render (program : Program) : String :=
  Text.listing (program.map Assignment.render)

end StraightLine
