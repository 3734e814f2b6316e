import StraightLine.Code.Basic
import StraightLine.Program.Reader

/-!
# Programs whose tokens stand elsewhere

A function of positions moves tokens, and with them statements and errors. Reading looks at kinds
alone, so that moved tokens give the moved statements up to the moved error: `statements_relocate`.
An error at the end of the tokens has no token to move; it goes to where the moved tokens end. The
tree and the code of a program show no positions and stay the same.
-/

namespace StraightLine

/-! ## What was read, changed -/

namespace Attempt

variable {α β ε δ : Type}

def map (g : α → β) (h : ε → δ) (attempt : Attempt α ε) : Attempt β δ :=
  ⟨attempt.items.map g, attempt.failure?.map h⟩

@[simp] theorem map_finished (g : α → β) (h : ε → δ) :
    (finished : Attempt α ε).map g h = finished := rfl

@[simp] theorem map_failed (g : α → β) (h : ε → δ) (e : ε) :
    (failed e : Attempt α ε).map g h = failed (h e) := rfl

@[simp] theorem map_cons (g : α → β) (h : ε → δ) (a : α) (attempt : Attempt α ε) :
    (attempt.cons a).map g h = (attempt.map g h).cons (g a) := rfl

theorem toExcept_map (g : α → β) (h : ε → δ) (attempt : Attempt α ε) :
    (attempt.map g h).toExcept = (attempt.toExcept.map (List.map g)).mapError h := by
  obtain ⟨items, failure?⟩ := attempt
  cases failure? <;> rfl

end Attempt

/-! ## Tokens and programs -/

def Token.relocate (f : Position → Position) (token : Token) : Token :=
  { token with position := f token.position }

def Operand.relocate (f : Position → Position) : Operand → Operand
  | number token => number (token.relocate f)
  | identifier token => identifier (token.relocate f)

def Assignment.relocate (f : Position → Position) (statement : Assignment) : Assignment :=
  ⟨statement.target.relocate f, statement.value.relocate f⟩

section Programs

variable (f : Position → Position)

theorem Operand.ofToken?_relocate (token : Token) :
    ofToken? (token.relocate f) = (ofToken? token).map (relocate f) := by
  obtain ⟨kind, lexeme, position⟩ := token
  cases kind <;> rfl

@[simp] theorem Operand.lexeme_relocate (operand : Operand) :
    (operand.relocate f).lexeme = operand.lexeme := by
  cases operand <;> rfl

@[simp] theorem Assignment.name_relocate (statement : Assignment) :
    (statement.relocate f).name = statement.name := rfl

@[simp] theorem Assignment.value_relocate (statement : Assignment) :
    (statement.relocate f).value = statement.value.relocate f := rfl

theorem Program.render_relocate (program : Program) :
    Program.render (program.map (Assignment.relocate f)) = program.render := by
  unfold Program.render
  rw [List.map_map]
  congr 1
  apply List.map_congr_left
  intro statement _
  simp [Assignment.render]

theorem Code.ofAssignment_relocate (number : Nat) (statement : Assignment) :
    ofAssignment number (statement.relocate f) = ofAssignment number statement := by
  obtain ⟨target, value⟩ := statement
  cases value <;> rfl

theorem Code.ofStatements_relocate (number : Nat) (program : Program) :
    ofStatements number (program.map (Assignment.relocate f)) = ofStatements number program := by
  induction program generalizing number with
  | nil => rfl
  | cons statement program ih =>
    rw [List.map_cons, ofStatements, ofStatements, ofAssignment_relocate, ih]

theorem Program.lower_relocate (program : Program) :
    Program.lower (program.map (Assignment.relocate f)) = program.lower :=
  Code.ofStatements_relocate f 1 program

end Programs

/-! ## Reading -/

/-- The error with its token at another place, and one at the end of the tokens there. -/
def SyntaxError.relocate (f : Position → Position) (stop : Position) : SyntaxError → SyntaxError
  | endOfInput expected _ => endOfInput expected stop
  | otherKind expected found => otherKind expected (found.relocate f)
  | noOperand found => noOperand (found.relocate f)

def SlotError.relocate (f : Position → Position) (stop : Position) (e : SlotError) : SlotError :=
  ⟨e.slot, e.error.relocate f stop⟩

namespace Reader

/-- The reader before the same tokens at other places, which all end where it says. -/
def relocate (f : Position → Position) (stop : Position) (reader : Reader) : Reader :=
  ⟨reader.rest.map (Token.relocate f), stop⟩

variable (f : Position → Position) (stop : Position) (reader : Reader)

theorem skip_relocate (count : Nat) :
    (reader.relocate f stop).skip count = (reader.skip count).relocate f stop := by
  simp [relocate, skip]

theorem expect_relocate (kind : Token.Kind) :
    (reader.relocate f stop).expect kind =
      ((reader.expect kind).map (Token.relocate f)).mapError (SyntaxError.relocate f stop) := by
  obtain ⟨tokens, last⟩ := reader
  cases tokens with
  | nil => rfl
  | cons token tokens =>
    have hsame : (token.relocate f).kind = token.kind := rfl
    simp only [relocate, expect, List.map_cons]
    by_cases hkind : token.kind = kind
    · rw [if_pos hkind, if_pos (hsame.trans hkind)]
      rfl
    · rw [if_neg hkind, if_neg (hsame ▸ hkind)]
      rfl

theorem operand_relocate :
    (reader.relocate f stop).operand =
      (reader.operand.map (Operand.relocate f)).mapError (SyntaxError.relocate f stop) := by
  obtain ⟨tokens, last⟩ := reader
  cases tokens with
  | nil => rfl
  | cons token tokens =>
    simp only [relocate, operand, List.map_cons, Operand.ofToken?_relocate]
    cases Operand.ofToken? token <;> rfl

/-- A slot holds the moved thing if finding commutes with moving. -/
theorem inSlot_relocate {α : Type} {find : Reader → Except SyntaxError α} {g : α → α}
    (hfind : ∀ reader, find (reader.relocate f stop) =
      ((find reader).map g).mapError (SyntaxError.relocate f stop)) (slot : Slot) :
    (reader.relocate f stop).inSlot slot find =
      ((reader.inSlot slot find).map g).mapError (SlotError.relocate f stop) := by
  rw [inSlot, inSlot, skip_relocate, hfind]
  cases find (reader.skip slot.index) <;> rfl

theorem statement_relocate :
    (reader.relocate f stop).statement =
      (reader.statement.map (Assignment.relocate f)).mapError (SlotError.relocate f stop) := by
  have htoken (slot : Slot) (kind : Token.Kind) :
      (reader.relocate f stop).inSlot slot (·.expect kind) =
        ((reader.inSlot slot (·.expect kind)).map (Token.relocate f)).mapError
          (SlotError.relocate f stop) :=
    inSlot_relocate f stop reader (fun reader ↦ expect_relocate f stop reader kind) slot
  have hvalue := inSlot_relocate f stop reader (operand_relocate f stop) .value
  simp only [statement, htoken, hvalue]
  cases reader.inSlot .target (·.expect .identifier) with
  | error e => rfl
  | ok target =>
    cases reader.inSlot .assign (·.expect .assign) with
    | error e => rfl
    | ok sign =>
      cases reader.inSlot .value operand with
      | error e => rfl
      | ok value => cases reader.inSlot .semicolon (·.expect .semicolon) <;> rfl

/-- Moved tokens are read into the moved statements. -/
theorem statements_relocate :
    (reader.relocate f stop).statements =
      reader.statements.map (Assignment.relocate f) (SlotError.relocate f stop) := by
  fun_induction statements reader with
  | case1 reader hrest =>
    apply statements_of_nil
    simp [relocate, hrest]
  | case2 reader hrest hshorter statement hstatement ih =>
    have hmoved := statement_relocate f stop reader
    rw [hstatement] at hmoved
    rw [statements_of_ok (by simpa [relocate] using hrest) hmoved, Attempt.map_cons, ← ih,
      pastStatement, pastStatement, skip_relocate]
  | case3 reader hrest hshorter e hstatement =>
    have hmoved := statement_relocate f stop reader
    rw [hstatement] at hmoved
    rw [statements_of_error (by simpa [relocate] using hrest) hmoved]
    rfl

theorem program_relocate :
    (reader.relocate f stop).program =
      (reader.program.map (List.map (Assignment.relocate f))).mapError
        (SyntaxError.relocate f stop) := by
  rw [program, program, statements_relocate, Attempt.toExcept_map]
  cases reader.statements.toExcept <;> rfl

end Reader

end StraightLine
