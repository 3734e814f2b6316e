import StraightLine.Proofs.Program.Execution
import StraightLine.Symbol.Resolution
import Mathlib.Data.List.Nodup
import Mathlib.Data.List.Perm.Subperm

/-!
# Resolution simulates execution

Resolution goes through a program as its execution does, with types in place of numbers. A name is in
the table exactly if it has a value in the store, the names stand in the order of their first values,
and the faults are the statements that the execution passes over.
-/

namespace StraightLine

def Assignment.fault (statement : Assignment) : Undeclared :=
  ⟨statement.value.lexeme, statement.value.token.position.line⟩

namespace SymbolTable

/-! ## Tables in which no name occurs twice -/

theorem nodup_names_define {table : SymbolTable} (h : table.names.Nodup) (name : String)
    (type : SymbolType) (line : Nat) : (table.define name type line).names.Nodup := by
  rw [names_define]
  split
  · exact h
  · next hname => simpa using h.concat hname

theorem get?_of_mem_entries {table : SymbolTable} (h : table.names.Nodup) {name : String}
    {symbol : Symbol} (hmem : (name, symbol) ∈ table.entries) : table.get? name = some symbol := by
  obtain ⟨before, after, hentries⟩ := List.append_of_mem hmem
  refine List.lookup_eq_some_iff.2 ⟨before, after, hentries, fun entry hentry ↦ ?_⟩
  rw [names, hentries, List.map_append, List.nodup_append] at h
  simpa using (h.2.2 entry.1 (List.mem_map_of_mem hentry) name (by simp)).symm

/-! ## Tables of an execution -/

/-- Leaving out repetitions puts names in the order in which they are declared. -/
theorem eraseDups_concat (names : List String) (name : String) :
    (names ++ [name]).eraseDups =
      if name ∈ names then names.eraseDups else names.eraseDups ++ [name] := by
  rw [List.eraseDups_append, List.removeAll, List.filter_singleton]
  by_cases hname : name ∈ names
  · simp [hname]
  · simp [hname, List.eraseDups_cons]

/-- Whether a table has the names with a value, each with the type of its number. -/
def Types (table : SymbolTable) (store : Store) : Prop :=
  ∀ name, (table.get? name).map Symbol.type = (store name).map SymbolType.ofLexeme

variable {table : SymbolTable} {store : Store} {statement : Assignment}

/-- An operand has a type if it has a value, and is at fault otherwise. -/
theorem Types.type_eq (h : table.Types store) (operand : Operand) :
    operand.type table = ((operand.value? store).map SymbolType.ofLexeme).elim
      (.error ⟨operand.lexeme, operand.token.position.line⟩) .ok := by
  cases operand with
  | number token => rfl
  | identifier token =>
    rw [Operand.value?, ← h token.lexeme, Operand.type]
    cases table.get? token.lexeme <;> rfl

theorem Types.declare_of_some (h : table.Types store) {value : String}
    (hvalue : statement.value.value? store = some value) :
    statement.declare table =
      .ok (table.define statement.name (.ofLexeme value) statement.line) := by
  rw [Assignment.declare, h.type_eq, hvalue]
  rfl

theorem Types.declare_of_none (h : table.Types store)
    (hvalue : statement.value.value? store = none) :
    statement.declare table = .error statement.fault := by
  rw [Assignment.declare, h.type_eq, hvalue]
  rfl

theorem Types.define (h : table.Types store) (name value : String) (line : Nat) :
    (table.define name (.ofLexeme value) line).Types (store.set name (some value)) := by
  intro other
  rw [get?_define, Store.set]
  split
  · rfl
  · exact h other

/-- What is known of a table after the execution of a program from the empty store. -/
structure Describes (table : SymbolTable) (program : Program) : Prop where
  nodup : table.names.Nodup
  types : table.Types (program.execute .empty)
  names : table.names = ((program.performed .empty).map Assignment.name).eraseDups
  line : ∀ name, (table.get? name).map Symbol.line =
    ((program.performed .empty).find? (·.name = name)).map Assignment.line

namespace Describes

theorem empty : SymbolTable.empty.Describes [] where
  nodup := List.nodup_nil
  types _ := rfl
  names := rfl
  line _ := rfl

variable {program : Program}

/-- A statement that is performed declares its target. -/
theorem define (h : table.Describes program) {value : String}
    (hvalue : statement.value.value? (program.execute .empty) = some value) :
    (table.define statement.name (.ofLexeme value) statement.line).Describes
      (program ++ [statement]) := by
  have hperformed := Program.performed_concat_of_some hvalue
  constructor
  · exact nodup_names_define h.nodup ..
  · rw [Program.execute_concat, Assignment.execute_of_some hvalue]
    exact h.types.define statement.name value statement.line
  · rw [names_define, h.names, hperformed, List.map_append, List.map_singleton, eraseDups_concat]
    simp only [List.mem_eraseDups]
  · intro name
    rw [get?_define, hperformed, List.find?_append]
    split
    · next hname =>
      subst hname
      rw [h.line]
      cases (program.performed .empty).find? (·.name = statement.name) <;> simp
    · next hname => simp [h.line name, Ne.symm hname]

/-- A statement that is passed over changes nothing. -/
theorem skip (h : table.Describes program)
    (hvalue : statement.value.value? (program.execute .empty) = none) :
    table.Describes (program ++ [statement]) := by
  have hperformed := Program.performed_concat_of_none hvalue
  have hexecute : (program ++ [statement]).execute .empty = program.execute .empty := by
    rw [Program.execute_concat, Assignment.execute_of_none hvalue]
  exact ⟨h.nodup, hexecute ▸ h.types, hperformed ▸ h.names, hperformed ▸ h.line⟩

end Describes

end SymbolTable

/-- What holds after some statements holds after the rest of the program, and the faults of the rest
are its statements that are passed over. -/
theorem Resolution.ofStatements_describes {table : SymbolTable} {before : Program}
    (h : table.Describes before) (program : Program) :
    (ofStatements table program).symbols.Describes (before ++ program) ∧
      (ofStatements table program).faults =
        (program.skipped (before.execute .empty)).map Assignment.fault := by
  induction program generalizing table before with
  | nil => exact ⟨(List.append_nil before).symm ▸ h, rfl⟩
  | cons statement program ih =>
    rw [List.append_cons]
    cases hvalue : statement.value.value? (before.execute .empty) with
    | some value =>
      have hrest := ih (h.define hvalue)
      rw [Program.execute_concat] at hrest
      rw [ofStatements, h.types.declare_of_some hvalue, Program.skipped_cons_of_some hvalue]
      exact hrest
    | none =>
      obtain ⟨hsymbols, hfaults⟩ := ih (h.skip hvalue)
      rw [Program.execute_concat, Assignment.execute_of_none hvalue] at hfaults
      rw [ofStatements, h.types.declare_of_none hvalue, Program.skipped_cons_of_none hvalue]
      exact ⟨hsymbols, congrArg (statement.fault :: ·) hfaults⟩

/-- A program is sound if its execution passes over nothing. -/
theorem Program.isSound_resolve_iff {program : Program} :
    program.resolve.isSound = true ↔ program.skipped .empty = [] := by
  have hfaults : program.resolve.faults = (program.skipped .empty).map Assignment.fault :=
    (Resolution.ofStatements_describes .empty program).2
  rw [Resolution.isSound, hfaults, List.isEmpty_iff, List.map_eq_nil_iff]

/-- Only names that a program assigns to are declared. -/
theorem Program.names_resolve_subset (program : Program) :
    program.resolve.symbols.names ⊆ program.map Assignment.name := by
  obtain ⟨hsymbols, -⟩ := Resolution.ofStatements_describes .empty program
  intro name hname
  have hperformed : name ∈ (program.performed .empty).map Assignment.name := by
    rw [← List.mem_eraseDups, ← List.nil_append program, ← hsymbols.names]
    exact hname
  exact ((performed_sublist .empty program).map Assignment.name).subset hperformed

theorem Program.size_resolve_le (program : Program) :
    program.resolve.symbols.size ≤ program.length := by
  obtain ⟨hsymbols, -⟩ := Resolution.ofStatements_describes .empty program
  have hnames : program.resolve.symbols.names.length ≤ (program.map Assignment.name).length :=
    (List.Nodup.subperm hsymbols.nodup program.names_resolve_subset).length_le
  rwa [SymbolTable.names, List.length_map, List.length_map] at hnames

/-- Resolution declares the names that the execution gives a value, in the order of their first values,
each with the type of its last value and the line of the first, and has a fault for every statement
that the execution passes over. -/
theorem Program.resolve_simulates (program : Program) :
    program.resolve.symbols.names = ((program.performed .empty).map Assignment.name).eraseDups ∧
    (∀ name, name ∈ program.resolve.symbols.names ↔ program.execute .empty name ≠ none) ∧
    (∀ name symbol, (name, symbol) ∈ program.resolve.symbols.entries →
      ∃ value first, program.execute .empty name = some value ∧
        (program.performed .empty).find? (·.name = name) = some first ∧
        symbol.type = (if '.' ∈ value.toList then .float else .int) ∧
        symbol.line = first.target.position.line) ∧
    program.resolve.faults = (program.skipped .empty).map fun statement ↦
      ⟨statement.value.lexeme, statement.value.token.position.line⟩ := by
  have hresolve := Resolution.ofStatements_describes .empty program
  obtain ⟨hsymbols, hfaults⟩ : program.resolve.symbols.Describes program ∧ _ := hresolve
  refine ⟨hsymbols.names, fun name ↦ ?_, fun name symbol hmem ↦ ?_, hfaults⟩
  · rw [hsymbols.names, execute_ne_none_iff, List.mem_eraseDups]
    simp [Store.empty]
  · have hget := SymbolTable.get?_of_mem_entries hsymbols.nodup hmem
    have htype := hsymbols.types name
    have hline := hsymbols.line name
    rw [show program.resolve.symbols.get? name = some symbol from hget] at htype hline
    obtain ⟨value, hvalue, htype⟩ := Option.map_eq_some_iff.1 htype.symm
    obtain ⟨first, hfirst, hline⟩ := Option.map_eq_some_iff.1 hline.symm
    exact ⟨value, first, hvalue, hfirst, htype.symm, hline.symm⟩

end StraightLine
