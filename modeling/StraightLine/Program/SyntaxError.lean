import StraightLine.Token.Basic

/-!
# Errors of syntax

A statement has four slots: a name, the assignment sign, a value and a semicolon. Reading it stops
at the first token that does not fit its slot, or where the tokens end while a slot is still open.
-/

namespace StraightLine

/-- The places of a statement, in the order in which they are filled. -/
inductive Slot
  | target
  | assign
  | value
  | semicolon
deriving DecidableEq

def Slot.index : Slot → Nat
  | target => 0
  | assign => 1
  | value => 2
  | semicolon => 3

inductive Expectation
  | token (kind : Token.Kind)
  | operand
deriving DecidableEq

def Expectation.name : Expectation → String
  | token kind => kind.name
  | operand => s!"{Token.Kind.number.name} or {Token.Kind.identifier.name}"

inductive SyntaxError
  /-- The tokens ended; the position is where they end. -/
  | endOfInput (expected : Expectation) (position : Position)
  /-- The next token is of another kind. -/
  | otherKind (expected : Token.Kind) (found : Token)
  /-- The token in the place of a value is neither a number nor a name. -/
  | noOperand (found : Token)
deriving DecidableEq

namespace SyntaxError

def position : SyntaxError → Position
  | endOfInput _ position => position
  | otherKind _ found => found.position
  | noOperand found => found.position

def message (e : SyntaxError) : String :=
  match e with
  | endOfInput expected _ =>
    s!"{e.position.render}: Unexpected end of input, expected {expected.name}"
  | otherKind expected found =>
    s!"{e.position.render}: Expected {expected.name}, found {found.kind.name} '{found.lexeme}'"
  | noOperand found =>
    s!"{e.position.render}: Expected {Expectation.operand.name} after '=', " ++
      s!"found {found.kind.name} '{found.lexeme}'"

end SyntaxError

/-- An error together with the slot of the statement in which it arose. -/
structure SlotError where
  slot : Slot
  error : SyntaxError
deriving DecidableEq

end StraightLine
