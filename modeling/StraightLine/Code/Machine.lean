import StraightLine.Code.Basic

/-!
# The machine for three-address code

The machine has a cell for each temporary and each name. A copy puts into the cell it writes what
the address it reads holds; reading a cell without a value leaves the written cell without one.
-/

namespace StraightLine.Code

/-- What the cells hold. A literal is no cell: it stands for its own text. -/
abbrev Memory := Address → Option String

def Memory.read (memory : Memory) : Address → Option String
  | .literal text => some text
  | cell => memory cell

def Copy.execute (memory : Memory) (copy : Copy) : Memory :=
  fun address ↦ if address = copy.destination then memory.read copy.source else memory address

def execute (memory : Memory) (code : List Copy) : Memory :=
  code.foldl Copy.execute memory

theorem execute_append (memory : Memory) (before after : List Copy) :
    execute memory (before ++ after) = execute (execute memory before) after :=
  List.foldl_append

end StraightLine.Code
