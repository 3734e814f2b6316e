import StraightLine.Program.Basic
import StraightLine.Symbol.Table

/-!
# Resolution of names

A name may be read only after it has been declared by an assignment to it. Going through a program
in order, an assignment declares its target with the type of its value. One that reads an undeclared
name is reported and declares nothing.
-/

namespace StraightLine

/-- A name that is read before it is declared, with the line of the reading. -/
structure Undeclared where
  name : String
  line : Nat
deriving DecidableEq

def Undeclared.message (fault : Undeclared) : String :=
  s!"line {fault.line}: Variable '{fault.name}' used before declaration"

def Operand.type (table : SymbolTable) : Operand → Except Undeclared SymbolType
  | number token => .ok (.ofLexeme token.lexeme)
  | identifier token =>
    match table.get? token.lexeme with
    | some symbol => .ok symbol.type
    | none => .error ⟨token.lexeme, token.position.line⟩

/-- The table after an assignment, or the fault for which it declares nothing. -/
def Assignment.declare (table : SymbolTable) (statement : Assignment) :
    Except Undeclared SymbolTable :=
  (statement.value.type table).map (table.define statement.name · statement.line)

/-- The symbols that a program declares and the faults found in it, each in order. -/
structure Resolution where
  symbols : SymbolTable
  faults : List Undeclared
deriving DecidableEq

namespace Resolution

def isSound (resolution : Resolution) : Bool :=
  resolution.faults.isEmpty

/-- The resolution of the rest of a program, given what is declared so far. -/
def ofStatements (table : SymbolTable) : Program → Resolution
  | [] => ⟨table, []⟩
  | statement :: program =>
    match statement.declare table with
    | .ok table => ofStatements table program
    | .error fault =>
      let later := ofStatements table program
      { later with faults := fault :: later.faults }

end Resolution

def Program.resolve (program : Program) : Resolution :=
  .ofStatements .empty program

end StraightLine
