import StraightLine.Program.Meaning

/-!
# Executions statement by statement

An execution performs the statements that find a value for their operand and passes over the others.
A name has a value as soon as a statement that assigns to it has been performed.
-/

namespace StraightLine

section Effect

variable {store : Store} {statement : Assignment}

theorem Assignment.execute_of_some {value : String} (h : statement.value.value? store = some value) :
    statement.execute store = store.set statement.name (some value) := by
  simp [execute, h]

theorem Assignment.execute_of_none (h : statement.value.value? store = none) :
    statement.execute store = store := by
  simp [execute, h]

end Effect

namespace Program

/-- The statements of a program, each with the store that it finds. -/
def trace (store : Store) : Program → List (Store × Assignment)
  | [] => []
  | statement :: program => (store, statement) :: trace (statement.execute store) program

/-- The statements that find a value for their operand. -/
def performed (store : Store) (program : Program) : Program :=
  ((trace store program).filter fun (found, statement) ↦
    (statement.value.value? found).isSome).map Prod.snd

/-- The statements that read a name without a value. -/
def skipped (store : Store) (program : Program) : Program :=
  ((trace store program).filter fun (found, statement) ↦
    (statement.value.value? found).isNone).map Prod.snd

theorem trace_append (store : Store) (before after : Program) :
    trace store (before ++ after) = trace store before ++ trace (execute store before) after := by
  induction before generalizing store with
  | nil => rfl
  | cons statement before ih => exact congrArg ((store, statement) :: ·) (ih (statement.execute store))

theorem performed_append (store : Store) (before after : Program) :
    performed store (before ++ after) =
      performed store before ++ performed (execute store before) after := by
  rw [performed, trace_append, List.filter_append, List.map_append]
  rfl

theorem execute_cons (store : Store) (statement : Assignment) (program : Program) :
    execute store (statement :: program) = execute (statement.execute store) program := rfl

theorem execute_concat (store : Store) (program : Program) (statement : Assignment) :
    execute store (program ++ [statement]) = statement.execute (execute store program) :=
  execute_append store program [statement]

section Statement

variable {store : Store} {statement : Assignment}

theorem performed_cons_of_some {value : String} (h : statement.value.value? store = some value)
    (program : Program) :
    performed store (statement :: program) =
      statement :: performed (statement.execute store) program := by
  simp [performed, trace, h]

theorem performed_cons_of_none (h : statement.value.value? store = none) (program : Program) :
    performed store (statement :: program) = performed store program := by
  simp [performed, trace, Assignment.execute_of_none h, h]

theorem skipped_cons_of_some {value : String} (h : statement.value.value? store = some value)
    (program : Program) :
    skipped store (statement :: program) = skipped (statement.execute store) program := by
  simp [skipped, trace, h]

theorem skipped_cons_of_none (h : statement.value.value? store = none) (program : Program) :
    skipped store (statement :: program) = statement :: skipped store program := by
  simp [skipped, trace, Assignment.execute_of_none h, h]

theorem skipped_cons_eq_nil_iff {program : Program} :
    skipped store (statement :: program) = [] ↔
      (∃ value, statement.value.value? store = some value) ∧
        skipped (statement.execute store) program = [] := by
  cases hvalue : statement.value.value? store with
  | none => simp [skipped_cons_of_none hvalue]
  | some value => simp [skipped_cons_of_some hvalue]

theorem performed_concat_of_some {program : Program} {value : String}
    (h : statement.value.value? (program.execute store) = some value) :
    performed store (program ++ [statement]) = performed store program ++ [statement] := by
  rw [performed_append, performed_cons_of_some h]
  rfl

theorem performed_concat_of_none {program : Program}
    (h : statement.value.value? (program.execute store) = none) :
    performed store (program ++ [statement]) = performed store program := by
  rw [performed_append, performed_cons_of_none h]
  exact List.append_nil _

end Statement

theorem performed_sublist (store : Store) (program : Program) :
    (performed store program).Sublist program := by
  induction program generalizing store with
  | nil => exact List.Sublist.slnil
  | cons statement program ih =>
    cases hvalue : statement.value.value? store with
    | none =>
      rw [performed_cons_of_none hvalue]
      exact (ih store).cons statement
    | some value =>
      rw [performed_cons_of_some hvalue]
      exact (ih (statement.execute store)).cons_cons statement

/-- Only a statement that is performed gives a name a value, and none takes a value away. -/
theorem execute_ne_none_iff {store : Store} {program : Program} {name : String} :
    execute store program name ≠ none ↔
      store name ≠ none ∨ name ∈ (performed store program).map Assignment.name := by
  induction program generalizing store with
  | nil => simp [execute, performed, trace]
  | cons statement program ih =>
    cases hvalue : statement.value.value? store with
    | none =>
      rw [performed_cons_of_none hvalue, execute_cons, Assignment.execute_of_none hvalue]
      exact ih
    | some value =>
      rw [performed_cons_of_some hvalue, execute_cons, ih, Assignment.execute_of_some hvalue]
      by_cases hname : name = statement.name
      · simp [hname]
      · simp [Store.set_of_ne store (some value) hname, hname]

/-! ## Programs of which no statement is passed over -/

theorem performed_of_skipped_eq_nil {store : Store} {program : Program}
    (h : program.skipped store = []) : program.performed store = program := by
  induction program generalizing store with
  | nil => rfl
  | cons statement program ih =>
    obtain ⟨⟨value, hvalue⟩, hrest⟩ := skipped_cons_eq_nil_iff.1 h
    rw [performed_cons_of_some hvalue, ih hrest]

/-- A program of which every statement finds a value is a sequence of copies. -/
theorem execute_of_skipped_eq_nil {store : Store} {program : Program}
    (h : program.skipped store = []) : program.execute store = program.copy store := by
  induction program generalizing store with
  | nil => rfl
  | cons statement program ih =>
    obtain ⟨⟨value, hvalue⟩, hrest⟩ := skipped_cons_eq_nil_iff.1 h
    have hstatement := Assignment.execute_eq_copy (hvalue ▸ Option.some_ne_none value)
    calc
      execute store (statement :: program) = execute (statement.execute store) program :=
          execute_cons ..
      _ = copy (statement.execute store) program := ih hrest
      _ = copy (statement.copy store) program := by rw [hstatement]
      _ = copy store (statement :: program) := rfl

end Program

end StraightLine
