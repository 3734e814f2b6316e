import StraightLine.Proofs.Code.Listing
import StraightLine.Proofs.Code.Lowering
import StraightLine.Proofs.Program.Execution

/-!
# Temporaries among the variables

Read back from a listing, a temporary is a variable, and a program may have a variable of the same
name. A statement that is carried out by way of it then replaces the number of that variable. The
names that can hold a wrong number for this reason are the disturbed ones. `store_execute_printed`
says that all others hold what the program gives them, and `execute_eq_none_of_disturbFrom` that the
disturbed names have no value as long as every temporary is used before the variable of its name.
-/

namespace StraightLine

def Code.Memory.empty : Memory := fun _ ↦ none

/-- The store after a statement that first puts what it gives its target into another variable. -/
def Assignment.copyVia (store : Store) (via : String) (statement : Assignment) : Store :=
  let value? := statement.value.value? store
  (store.set via value?).set statement.name value?

def Operand.isDisturbed (disturbed : String → Bool) : Operand → Bool
  | number _ => false
  | identifier token => disturbed token.lexeme

/-- Which names are disturbed after a statement: its target if its operand was, and the variable that
it is carried out by way of. -/
def Assignment.disturb (disturbed : String → Bool) (via : String) (statement : Assignment) :
    String → Bool := fun name ↦
  if name = statement.name then statement.value.isDisturbed disturbed
  else name = via || disturbed name

namespace Program

/-- Which names are disturbed after some statements, the first of which has the given number. -/
def disturbFrom (number : Nat) (disturbed : String → Bool) : Program → String → Bool
  | [] => disturbed
  | statement :: program =>
    disturbFrom (number + 1) (statement.disturb disturbed s!"t{number}") program

/-- Which names can end up with a wrong number when the listing of a program is read back. -/
def disturbed (program : Program) : String → Bool :=
  program.disturbFrom 1 fun _ ↦ false

end Program

/-! ## Names that are not disturbed -/

theorem Code.store_execute_printed_ofAssignment (memory : Memory) (number : Nat) (statement : Assignment) :
    (execute memory ((ofAssignment number statement).map Copy.printed)).store =
      statement.copyVia memory.store s!"t{number}" := by
  have hvalue : memory.read (ofOperand statement.value).printed =
      statement.value.value? memory.store := by
    cases statement.value <;> rfl
  let between := Copy.execute memory ⟨.name s!"t{number}", (ofOperand statement.value).printed⟩
  have hbetween : between.store =
      memory.store.set s!"t{number}" (statement.value.value? memory.store) := by
    rw [store_execute, hvalue]
  have hread : between.read (.name s!"t{number}") = statement.value.value? memory.store :=
    (congrFun hbetween s!"t{number}").trans (Store.set_self ..)
  calc
    (execute memory ((ofAssignment number statement).map Copy.printed)).store =
        (Copy.execute between ⟨.name statement.name, .name s!"t{number}"⟩).store := rfl
    _ = between.store.set statement.name (between.read (.name s!"t{number}")) := store_execute ..
    _ = statement.copyVia memory.store s!"t{number}" := by
        rw [hread, hbetween]
        rfl

/-- An operand that is not disturbed has its own value. -/
theorem value?_of_isDisturbed {store printed : Store} {disturbed : String → Bool}
    (h : ∀ name, disturbed name = false → printed name = store name) {operand : Operand}
    (hoperand : operand.isDisturbed disturbed = false) :
    operand.value? printed = operand.value? store := by
  cases operand with
  | number token => rfl
  | identifier token => exact h token.lexeme hoperand

theorem copyVia_of_disturb {store printed : Store} {disturbed : String → Bool}
    (h : ∀ name, disturbed name = false → printed name = store name) (via : String)
    (statement : Assignment) (name : String) (hname : statement.disturb disturbed via name = false) :
    statement.copyVia printed via name = statement.copy store name := by
  unfold Assignment.disturb at hname
  unfold Assignment.copyVia Assignment.copy Store.set
  split at hname
  · next htarget => rw [if_pos htarget, if_pos htarget, value?_of_isDisturbed h hname]
  · next htarget =>
    obtain ⟨hvia, hother⟩ := Bool.or_eq_false_iff.1 hname
    rw [if_neg htarget, if_neg htarget, if_neg (of_decide_eq_false hvia), h name hother]

/-- The code of a program, printed and read back, leaves each name that is not disturbed with what the
program leaves it with. -/
theorem Code.store_execute_printed (program : Program) {memory : Memory} {store : Store}
    {disturbed : String → Bool}
    (h : ∀ name, disturbed name = false → memory.store name = store name) (number : Nat)
    (name : String) (hname : program.disturbFrom number disturbed name = false) :
    (execute memory ((ofStatements number program).map Copy.printed)).store name =
      program.copy store name := by
  induction program generalizing memory store disturbed number with
  | nil => exact h name hname
  | cons statement program ih =>
    rw [ofStatements, List.map_append, execute_append, Program.copy, List.foldl_cons]
    refine ih ?_ (number + 1) hname
    rw [store_execute_printed_ofAssignment]
    exact copyVia_of_disturb h s!"t{number}" statement

/-! ## Programs without disturbance -/

theorem value?_eq_none_of_isDisturbed {store : Store} {disturbed : String → Bool}
    (h : ∀ name, disturbed name = true → store name = none) {operand : Operand}
    (hoperand : operand.isDisturbed disturbed = true) : operand.value? store = none := by
  cases operand with
  | number token => cases hoperand
  | identifier token => exact h token.lexeme hoperand

/-- Whether a program assigns to no variable whose name is that of the temporary of a later statement,
where the first statement has the given number. -/
def Program.SparesTemporaries (number : Nat) (program : Program) : Prop :=
  (program.zipIdx number).Pairwise fun earlier later ↦ earlier.1.name ≠ s!"t{later.2}"

instance (number : Nat) (program : Program) : Decidable (program.SparesTemporaries number) :=
  inferInstanceAs (Decidable (List.Pairwise _ _))

/-- As long as a temporary finds no variable of its name, only names without a value are disturbed. -/
theorem Program.execute_eq_none_of_disturbFrom {store : Store} {disturbed : String → Bool}
    {number : Nat} {program : Program} (hskipped : program.skipped store = [])
    (hspares : program.SparesTemporaries number)
    (htemporaries : ∀ later ∈ program.zipIdx number, store s!"t{later.2}" = none)
    (hstore : ∀ name, disturbed name = true → store name = none) (name : String)
    (hname : program.disturbFrom number disturbed name = true) :
    program.execute store name = none := by
  induction program generalizing store disturbed number with
  | nil => exact hstore name hname
  | cons statement program ih =>
    obtain ⟨⟨value, hvalue⟩, hskipped⟩ := skipped_cons_eq_nil_iff.1 hskipped
    rw [SparesTemporaries, List.zipIdx_cons, List.pairwise_cons] at hspares
    rw [List.zipIdx_cons, List.forall_mem_cons] at htemporaries
    obtain ⟨htarget, hspares⟩ := hspares
    obtain ⟨hvia, htemporaries⟩ := htemporaries
    have hexecute := Assignment.execute_of_some hvalue
    refine ih hskipped hspares (fun later hlater ↦ ?_) (fun other hother ↦ ?_) hname
    · rw [hexecute, Store.set_of_ne _ _ (htarget later hlater).symm]
      exact htemporaries later hlater
    · unfold Assignment.disturb at hother
      split at hother
      · rw [value?_eq_none_of_isDisturbed hstore hother] at hvalue
        cases hvalue
      · next htarget =>
        rw [hexecute, Store.set_of_ne _ _ htarget]
        rcases Bool.or_eq_true_iff.1 hother with hother | hother
        · rw [of_decide_eq_true hother]
          exact hvia
        · exact hstore other hother

end StraightLine
