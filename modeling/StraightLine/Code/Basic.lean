import StraightLine.Program.Basic

/-!
# Three-address code

Every assignment becomes two copies, one into a temporary of its own and one from there into its
target. The temporaries are numbered from one in the order of the assignments.
-/

namespace StraightLine

namespace Code

/-- What a copy can read or write. -/
inductive Address
  | temporary (number : Nat)
  | name (text : String)
  | literal (text : String)
deriving DecidableEq

def Address.render : Address → String
  | temporary number => s!"t{number}"
  | name text => text
  | literal text => text

structure Copy where
  destination : Address
  source : Address
deriving DecidableEq

def Copy.render (copy : Copy) : String :=
  s!"{copy.destination.render} = {copy.source.render}"

def ofOperand : Operand → Address
  | .number token => .literal token.lexeme
  | .identifier token => .name token.lexeme

/-- The copies for an assignment, by way of the temporary with the given number. -/
def ofAssignment (number : Nat) (statement : Assignment) : List Copy :=
  [⟨.temporary number, ofOperand statement.value⟩, ⟨.name statement.name, .temporary number⟩]

/-- The copies for some assignments, the first of which uses the temporary with the given number. -/
def ofStatements (number : Nat) : Program → List Copy
  | [] => []
  | statement :: program => ofAssignment number statement ++ ofStatements (number + 1) program

end Code

def Program.lower (program : Program) : List Code.Copy :=
  Code.ofStatements 1 program

end StraightLine
