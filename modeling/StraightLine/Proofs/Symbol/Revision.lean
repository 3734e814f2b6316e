import StraightLine.Proofs.Symbol.Simulation

/-!
# The resolution of revised programs

A program may lose its faulty statements, or get one statement more. Without its faulty statements it has
no fault and declares exactly what it declared before: `resolve_faultless`. One statement more does no harm
to the others: where more names are declared a sound statement stays sound, so that no fault is new but
that of the statement itself, and no name is lost: `resolve_insert`.
-/

namespace StraightLine

/-! ## One statement -/

/-- The table after a statement. A faulty one leaves it as it is. -/
def SymbolTable.after (table : SymbolTable) (statement : Assignment) : SymbolTable :=
  (statement.declare table).toOption.getD table

def Assignment.fault? (table : SymbolTable) (statement : Assignment) : Option Undeclared :=
  match statement.declare table with
  | .ok _ => none
  | .error fault => some fault

/-- Whether an operand can be read where some names are declared. -/
def Operand.IsDeclared (names : List String) : Operand → Prop
  | number _ => True
  | identifier token => token.lexeme ∈ names

theorem Operand.IsDeclared.mono {names others : List String} {operand : Operand}
    (h : operand.IsDeclared names) (hnames : names ⊆ others) : operand.IsDeclared others := by
  cases operand with
  | number token => trivial
  | identifier token => exact hnames h

namespace SymbolTable

theorem get?_eq_none_iff {table : SymbolTable} {name : String} :
    table.get? name = none ↔ name ∉ table.names := by
  simp only [get?, names, List.lookup_eq_none_iff, List.mem_map, bne_iff_ne, not_exists, not_and]
  exact forall₂_congr fun entry hentry ↦ ne_comm

theorem mem_names_define {table : SymbolTable} {name declared : String} {type : SymbolType}
    {line : Nat} :
    name ∈ (table.define declared type line).names ↔ name ∈ table.names ∨ name = declared := by
  rw [names_define]
  split
  · next hdeclared => exact (or_iff_left_of_imp fun hname ↦ hname ▸ hdeclared).symm
  · rw [List.mem_append, List.mem_singleton]

end SymbolTable

section Statement

variable {table : SymbolTable} {statement : Assignment}

/-- A statement whose operand can be read declares its target. -/
theorem Assignment.exists_declare_eq_ok (h : statement.value.IsDeclared table.names) :
    ∃ type, statement.declare table = .ok (table.define statement.name type statement.line) := by
  unfold declare
  cases hvalue : statement.value with
  | number token => exact ⟨_, rfl⟩
  | identifier token =>
    rw [hvalue] at h
    cases hget : table.get? token.lexeme with
    | none => exact absurd h (SymbolTable.get?_eq_none_iff.1 hget)
    | some symbol => exact ⟨symbol.type, by rw [Operand.type, hget]; rfl⟩

/-- A statement whose operand cannot be read is faulty. -/
theorem Assignment.declare_eq_error (h : ¬ statement.value.IsDeclared table.names) :
    statement.declare table = .error statement.fault := by
  unfold declare fault
  cases hvalue : statement.value with
  | number token =>
    rw [hvalue] at h
    exact absurd trivial h
  | identifier token =>
    rw [hvalue] at h
    rw [Operand.type, SymbolTable.get?_eq_none_iff.2 h]
    rfl

theorem Assignment.fault?_of_isDeclared (h : statement.value.IsDeclared table.names) :
    statement.fault? table = none := by
  obtain ⟨type, htype⟩ := exists_declare_eq_ok h
  rw [fault?, htype]

theorem Assignment.fault?_of_not_isDeclared (h : ¬ statement.value.IsDeclared table.names) :
    statement.fault? table = some statement.fault := by
  rw [fault?, declare_eq_error h]

theorem SymbolTable.mem_names_after {name : String} :
    name ∈ (table.after statement).names ↔
      name ∈ table.names ∨ statement.value.IsDeclared table.names ∧ name = statement.name := by
  unfold after
  by_cases h : statement.value.IsDeclared table.names
  · obtain ⟨type, htype⟩ := Assignment.exists_declare_eq_ok h
    rw [htype, and_iff_right h]
    exact mem_names_define
  · rw [Assignment.declare_eq_error h]
    exact (or_iff_left fun hname ↦ h hname.1).symm

end Statement

/-! ## Programs -/

theorem Resolution.ofStatements_cons (table : SymbolTable) (statement : Assignment)
    (program : Program) :
    ofStatements table (statement :: program) =
      ⟨(ofStatements (table.after statement) program).symbols,
        (statement.fault? table).toList ++ (ofStatements (table.after statement) program).faults⟩ := by
  rw [ofStatements, SymbolTable.after, Assignment.fault?]
  cases statement.declare table <;> rfl

theorem Resolution.ofStatements_append (table : SymbolTable) (before after : Program) :
    ofStatements table (before ++ after) =
      ⟨(ofStatements (ofStatements table before).symbols after).symbols,
        (ofStatements table before).faults ++
          (ofStatements (ofStatements table before).symbols after).faults⟩ := by
  induction before generalizing table with
  | nil => rfl
  | cons statement before ih =>
    rw [List.cons_append, ofStatements_cons, ih, ofStatements_cons, List.append_assoc]

/-! ### Without the faulty statements -/

namespace Program

/-- The statements of a program, each with the table that resolution has when it comes to it. -/
def visits (table : SymbolTable) : Program → List (SymbolTable × Assignment)
  | [] => []
  | statement :: program => (table, statement) :: visits (table.after statement) program

/-- The program without the statements in which resolution finds a fault. -/
def faultless (table : SymbolTable) (program : Program) : Program :=
  ((visits table program).filter fun (found, statement) ↦ (statement.fault? found).isNone).map Prod.snd

end Program

/-- The table that a statement finds is that of the statements in front of it. -/
theorem Resolution.getElem?_visits (table : SymbolTable) (program : Program) (index : Nat) :
    (program.visits table)[index]? = program[index]?.map fun statement ↦
      ((ofStatements table (program.take index)).symbols, statement) := by
  induction program generalizing table index with
  | nil => rfl
  | cons statement program ih =>
    cases index with
    | zero => rfl
    | succ index =>
      rw [List.take_succ_cons, ofStatements_cons]
      exact ih (table.after statement) index

/-- The faults are those of the statements, each for the table that it finds. -/
theorem Resolution.faults_ofStatements (table : SymbolTable) (program : Program) :
    (ofStatements table program).faults =
      (program.visits table).filterMap fun (found, statement) ↦ statement.fault? found := by
  induction program generalizing table with
  | nil => rfl
  | cons statement program ih =>
    rw [ofStatements_cons, ih]
    cases hfault : statement.fault? table <;> simp [Program.visits, hfault]

/-- A faulty statement has no part in what the others find. -/
theorem Resolution.ofStatements_faultless (table : SymbolTable) (program : Program) :
    ofStatements table (program.faultless table) = ⟨(ofStatements table program).symbols, []⟩ := by
  induction program generalizing table with
  | nil => rfl
  | cons statement program ih =>
    rw [ofStatements_cons]
    by_cases h : statement.value.IsDeclared table.names
    · have hnone := Assignment.fault?_of_isDeclared h
      have hkept : Program.faultless table (statement :: program) =
          statement :: Program.faultless (table.after statement) program := by
        simp [Program.faultless, Program.visits, hnone]
      rw [hkept, ofStatements_cons, ih, hnone]
      rfl
    · have hstays : table.after statement = table := by
        rw [SymbolTable.after, Assignment.declare_eq_error h]
        rfl
      have hdropped : Program.faultless table (statement :: program) =
          Program.faultless table program := by
        simp [Program.faultless, Program.visits, Assignment.fault?_of_not_isDeclared h, hstays]
      rw [hdropped, hstays]
      exact ih table

/-- The faults of a program are those of some of its statements, each for the table that the statements
in front of it leave. Without the faulty statements the program has no fault, and the same table. -/
theorem Program.resolve_faultless (program : Program) :
    (∀ index, (program.visits .empty)[index]? = program[index]?.map fun statement ↦
      ((Program.resolve (program.take index)).symbols, statement)) ∧
    program.resolve.faults =
      (program.visits .empty).filterMap (fun (found, statement) ↦ statement.fault? found) ∧
    (program.faultless .empty).resolve.faults = [] ∧
    (program.faultless .empty).resolve.symbols = program.resolve.symbols := by
  have hfaultless : (program.faultless .empty).resolve = ⟨program.resolve.symbols, []⟩ :=
    Resolution.ofStatements_faultless .empty program
  rw [hfaultless]
  exact ⟨Resolution.getElem?_visits .empty program, Resolution.faults_ofStatements .empty program, rfl,
    rfl⟩

/-! ### With more names declared -/

section More

variable {table other : SymbolTable} (h : table.names ⊆ other.names)

theorem SymbolTable.names_subset_after (table : SymbolTable) (statement : Assignment) :
    table.names ⊆ (table.after statement).names :=
  fun _ hname ↦ mem_names_after.2 (.inl hname)

include h

theorem SymbolTable.names_after_subset (statement : Assignment) :
    (table.after statement).names ⊆ (other.after statement).names := by
  intro name hname
  apply mem_names_after.2
  rcases mem_names_after.1 hname with hearlier | ⟨hdeclared, htarget⟩
  · exact .inl (h hearlier)
  · exact .inr ⟨hdeclared.mono h, htarget⟩

theorem Assignment.fault?_sublist (statement : Assignment) :
    (statement.fault? other).toList.Sublist (statement.fault? table).toList := by
  by_cases hdeclared : statement.value.IsDeclared other.names
  · rw [fault?_of_isDeclared hdeclared]
    exact List.nil_sublist _
  · have hundeclared : ¬ statement.value.IsDeclared table.names := fun htable ↦
      hdeclared (htable.mono h)
    rw [fault?_of_not_isDeclared hdeclared, fault?_of_not_isDeclared hundeclared]

/-- Where more names are declared at first, more are declared in the end, and there are fewer faults. -/
theorem Resolution.ofStatements_mono (program : Program) :
    (ofStatements table program).symbols.names ⊆ (ofStatements other program).symbols.names ∧
      (ofStatements other program).faults.Sublist (ofStatements table program).faults := by
  induction program generalizing table other with
  | nil => exact ⟨h, .slnil⟩
  | cons statement program ih =>
    obtain ⟨hnames, hfaults⟩ := ih (SymbolTable.names_after_subset h statement)
    rw [ofStatements_cons, ofStatements_cons]
    exact ⟨hnames, (Assignment.fault?_sublist h statement).append hfaults⟩

end More

/-- With one more statement a program has the faults of what precedes the statement, the fault of the
statement if it is faulty, and then none that it would not have without the statement. It declares every
name that it would declare without it. -/
theorem Program.resolve_insert (before after : Program) (statement : Assignment) :
    ∃ later : List Undeclared,
      Resolution.faults (Program.resolve (before ++ [statement] ++ after)) =
        before.resolve.faults ++ (statement.fault? before.resolve.symbols).toList ++ later ∧
      (before.resolve.faults ++ later).Sublist (Program.resolve (before ++ after)).faults ∧
      before.resolve.faults <+: (Program.resolve (before ++ [statement] ++ after)).faults ∧
      before.resolve.faults <+: (Program.resolve (before ++ after)).faults ∧
      (Program.resolve (before ++ after)).symbols.names ⊆
        (Program.resolve (before ++ [statement] ++ after)).symbols.names := by
  let table := before.resolve.symbols
  obtain ⟨hnames, hfaults⟩ :=
    Resolution.ofStatements_mono (table.names_subset_after statement) after
  have hwithout : Program.resolve (before ++ after) =
      ⟨(Resolution.ofStatements table after).symbols,
        before.resolve.faults ++ (Resolution.ofStatements table after).faults⟩ :=
    Resolution.ofStatements_append .empty before after
  have hwith : Program.resolve (before ++ [statement] ++ after) =
      ⟨(Resolution.ofStatements (table.after statement) after).symbols,
        before.resolve.faults ++ (statement.fault? table).toList ++
          (Resolution.ofStatements (table.after statement) after).faults⟩ := by
    calc
      Program.resolve (before ++ [statement] ++ after) =
          Resolution.ofStatements .empty (before ++ statement :: after) := by
        rw [List.append_assoc, List.singleton_append]
        rfl
      _ = _ := by
        rw [Resolution.ofStatements_append, Resolution.ofStatements_cons, List.append_assoc]
        rfl
  rw [hwith, hwithout]
  refine ⟨_, rfl, hfaults.append_left _, ?_, List.prefix_append _ _, hnames⟩
  rw [List.append_assoc]
  exact List.prefix_append _ _

end StraightLine
