import StraightLine.Program.Basic

/-!
# The meaning of programs

Running a program fills a store, which holds for each name the text of the number last given to it.
A statement that reads a name without a value can be taken in two ways: `execute` passes over it,
`copy` carries the lack of a value over to the name assigned to. On a program that never reads such
a name the two agree.
-/

namespace StraightLine

/-- The number that each name holds, as text. -/
abbrev Store := String → Option String

namespace Store

def empty : Store := fun _ ↦ none

def set (store : Store) (name : String) (value? : Option String) : Store :=
  fun other ↦ if other = name then value? else store other

@[simp] theorem set_self (store : Store) (name : String) (value? : Option String) :
    store.set name value? name = value? :=
  if_pos rfl

theorem set_of_ne (store : Store) {name other : String} (value? : Option String)
    (h : other ≠ name) : store.set name value? other = store other :=
  if_neg h

end Store

def Operand.value? (store : Store) : Operand → Option String
  | number token => some token.lexeme
  | identifier token => store token.lexeme

/-- The store after a statement that has an effect only if its operand has a value. -/
def Assignment.execute (store : Store) (statement : Assignment) : Store :=
  match statement.value.value? store with
  | some value => store.set statement.name (some value)
  | none => store

/-- The store after a statement that gives its target whatever its operand holds. -/
def Assignment.copy (store : Store) (statement : Assignment) : Store :=
  store.set statement.name (statement.value.value? store)

theorem Assignment.execute_eq_copy {store : Store} {statement : Assignment}
    (h : statement.value.value? store ≠ none) : statement.execute store = statement.copy store := by
  unfold execute copy
  split
  · next value hvalue => rw [hvalue]
  · next hnone => exact absurd hnone h

namespace Program

/-- The store after a program whose statements without a value are passed over. -/
def execute (store : Store) (program : Program) : Store :=
  program.foldl Assignment.execute store

def copy (store : Store) (program : Program) : Store :=
  program.foldl Assignment.copy store

theorem execute_append (store : Store) (before after : Program) :
    execute store (before ++ after) = execute (execute store before) after :=
  List.foldl_append

end Program

end StraightLine
