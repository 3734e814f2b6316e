import StraightLine.Code.Machine
import StraightLine.Program.Meaning
import Mathlib.Data.List.Count

/-!
# Lowering keeps the meaning of programs

The machine keeps temporaries and names in cells of their own, so that the two copies of an assignment
do to the names what the assignment does. Whatever the temporaries held before, each is written before
it is read: by the first copy of its assignment and by the second, and by no other.
-/

namespace StraightLine

namespace Code

def Memory.store (memory : Memory) : Store := fun name ↦ memory (.name name)

theorem store_execute (memory : Memory) (target : String) (source : Address) :
    (Copy.execute memory ⟨.name target, source⟩).store =
      memory.store.set target (memory.read source) := by
  funext name
  simp [Copy.execute, Memory.store, Store.set]

theorem store_execute_temporary (memory : Memory) (number : Nat) (source : Address) :
    (Copy.execute memory ⟨.temporary number, source⟩).store = memory.store := by
  funext name
  simp [Copy.execute, Memory.store]

theorem read_ofOperand (memory : Memory) (operand : Operand) :
    memory.read (ofOperand operand) = operand.value? memory.store := by
  cases operand <;> rfl

/-! ## What the names hold -/

theorem store_execute_ofAssignment (memory : Memory) (number : Nat) (statement : Assignment) :
    (execute memory (ofAssignment number statement)).store = statement.copy memory.store := by
  let between := Copy.execute memory ⟨.temporary number, ofOperand statement.value⟩
  have hread : between.read (.temporary number) = statement.value.value? memory.store :=
    (if_pos rfl).trans (read_ofOperand memory statement.value)
  calc
    (execute memory (ofAssignment number statement)).store =
        (Copy.execute between ⟨.name statement.name, .temporary number⟩).store := rfl
    _ = between.store.set statement.name (between.read (.temporary number)) := store_execute ..
    _ = memory.store.set statement.name (statement.value.value? memory.store) := by
        rw [hread, store_execute_temporary]
    _ = statement.copy memory.store := rfl

theorem store_execute_ofStatements (memory : Memory) (number : Nat) (program : Program) :
    (execute memory (ofStatements number program)).store = program.copy memory.store := by
  induction program generalizing memory number with
  | nil => rfl
  | cons statement program ih =>
    rw [ofStatements, execute_append, ih, store_execute_ofAssignment]
    rfl

theorem length_ofStatements (number : Nat) (program : Program) :
    (ofStatements number program).length = 2 * program.length := by
  induction program generalizing number with
  | nil => rfl
  | cons statement program ih =>
    rw [ofStatements, List.length_append, ih, List.length_cons, Nat.mul_succ, Nat.add_comm]
    rfl

/-- The first assignments of a program become the first copies of its code, two each. -/
theorem take_ofStatements (number : Nat) (program : Program) (count : Nat) :
    (ofStatements number program).take (2 * count) = ofStatements number (program.take count) := by
  induction count generalizing number program with
  | zero => rfl
  | succ count ih =>
    cases program with
    | nil => rfl
    | cons statement program => exact congrArg (ofAssignment number statement ++ ·) (ih _ program)

/-! ## Where temporaries occur -/

/-- If the temporary of an assignment stands at one place of its copies, then it stands there and nowhere
else in the code of a program. -/
theorem idxsOf_temporary_ofStatements (part : Copy → Address) (place : Nat)
    (hplace : ∀ number statement other,
      ((ofAssignment number statement).map part).idxsOf (.temporary other) =
        if other = number then [place] else [])
    (number : Nat) (program : Program) (other : Nat) :
    ((ofStatements number program).map part).idxsOf (.temporary other) =
      if number ≤ other ∧ other < number + program.length
        then [2 * (other - number) + place] else [] := by
  induction program generalizing number with
  | nil =>
    rw [if_neg (by simp)]
    rfl
  | cons statement program ih =>
    rw [ofStatements, List.map_append, List.idxsOf_append, hplace, List.idxsOf_start, ih,
      List.length_cons]
    -- the temporary belongs to this assignment, to a later one or to none
    by_cases hnumber : other = number
    · rw [if_pos hnumber, if_neg (by omega), if_pos (by omega), List.map_nil, List.append_nil, hnumber,
        Nat.sub_self, Nat.mul_zero, Nat.zero_add]
    · by_cases hlater : number + 1 ≤ other ∧ other < number + 1 + program.length
      · have hindex : 2 * (other - (number + 1)) + place + 2 = 2 * (other - number) + place := by
          omega
        rw [if_neg hnumber, if_pos hlater, if_pos (by omega), List.nil_append, ← hindex]
        rfl
      · rw [if_neg hnumber, if_neg hlater, if_neg (by omega)]
        rfl

theorem idxsOf_destination_ofAssignment (number : Nat) (statement : Assignment) (other : Nat) :
    ((ofAssignment number statement).map Copy.destination).idxsOf (.temporary other) =
      if other = number then [0] else [] := by
  by_cases hnumber : other = number
  · simp [ofAssignment, hnumber]
  · simp [ofAssignment, hnumber, Ne.symm hnumber]

theorem idxsOf_source_ofAssignment (number : Nat) (statement : Assignment) (other : Nat) :
    ((ofAssignment number statement).map Copy.source).idxsOf (.temporary other) =
      if other = number then [1] else [] := by
  have hvalue : (ofOperand statement.value == .temporary other) = false := by
    cases statement.value <;> rfl
  by_cases hnumber : other = number
  · subst hnumber
    simp [ofAssignment, hvalue]
  · simp [ofAssignment, hvalue, hnumber, Ne.symm hnumber]

end Code

/-- Two copies of the code of a program do to the names what one assignment does, whatever the memory held
at first. The temporary of each assignment is written once and then read once, by the copy behind, and
there are no other temporaries. -/
theorem Program.lower_preserves_meaning (program : Program) :
    (∀ (memory : Code.Memory) (count : Nat),
      (Code.execute memory (program.lower.take (2 * count))).store =
        copy memory.store (program.take count)) ∧
    (∀ index < program.length,
      (program.lower.map Code.Copy.destination).idxsOf (.temporary (index + 1)) = [2 * index] ∧
      (program.lower.map Code.Copy.source).idxsOf (.temporary (index + 1)) = [2 * index + 1]) ∧
    ∀ number, number = 0 ∨ program.length < number →
      .temporary number ∉ program.lower.map Code.Copy.destination ∧
      .temporary number ∉ program.lower.map Code.Copy.source := by
  have hwritten := Code.idxsOf_temporary_ofStatements Code.Copy.destination 0
    Code.idxsOf_destination_ofAssignment 1 program
  have hread := Code.idxsOf_temporary_ofStatements Code.Copy.source 1
    Code.idxsOf_source_ofAssignment 1 program
  have habsent {addresses : List Code.Address} {number : Nat}
      (h : addresses.idxsOf (.temporary number) = []) : .temporary number ∉ addresses := by
    intro hmem
    simpa using List.idxsOf_eq_nil_iff.1 h _ hmem
  refine ⟨fun memory count ↦ ?_, fun index hindex ↦ ⟨?_, ?_⟩, fun number hnumber ↦ ⟨?_, ?_⟩⟩
  · rw [lower, Code.take_ofStatements, Code.store_execute_ofStatements]
  · rw [lower, hwritten, if_pos (by omega), Nat.add_sub_cancel, Nat.add_zero]
  · rw [lower, hread, if_pos (by omega), Nat.add_sub_cancel]
  · apply habsent
    rw [lower, hwritten, if_neg (by omega)]
  · apply habsent
    rw [lower, hread, if_neg (by omega)]

end StraightLine
