import StraightLine.Attempt
import StraightLine.Program.Basic
import StraightLine.Program.SyntaxError

/-!
# Reading programs

A reader stands before the tokens that are still to be read and remembers where the last of all the
tokens ends. `Reader.statement` reads the four tokens of one statement. `Reader.program` reads
statements up to the first error; `Reader.recover` goes on after each error behind the next
semicolon, so that every error and every sound statement is found.
-/

namespace StraightLine

/-- The tokens still to be read, and the place where all the tokens end. -/
structure Reader where
  rest : List Token
  stop : Position
deriving DecidableEq

namespace Reader

def ofTokens (tokens : List Token) : Reader where
  rest := tokens
  stop := (tokens.getLast?.map Token.stop).getD .start

def current? (reader : Reader) : Option Token :=
  reader.rest.head?

/-- The reader some tokens further on, or at the end if there are not so many. -/
def skip (reader : Reader) (count : Nat) : Reader :=
  { reader with rest := reader.rest.drop count }

def expect (reader : Reader) (kind : Token.Kind) : Except SyntaxError Token :=
  match reader.rest with
  | [] => .error (.endOfInput (.token kind) reader.stop)
  | token :: _ => if token.kind = kind then .ok token else .error (.otherKind kind token)

def operand (reader : Reader) : Except SyntaxError Operand :=
  match reader.rest with
  | [] => .error (.endOfInput .operand reader.stop)
  | token :: _ =>
    match Operand.ofToken? token with
    | some operand => .ok operand
    | none => .error (.noOperand token)

/-- What `expect` finds, and the reader past it. The reader stays where it is on an error. -/
def take (reader : Reader) (kind : Token.Kind) : Except SyntaxError Token × Reader :=
  match reader.expect kind with
  | .ok token => (.ok token, reader.skip 1)
  | .error e => (.error e, reader)

/-- What is found in a slot of the statement that begins at the reader. -/
def inSlot {α : Type} (reader : Reader) (slot : Slot) (find : Reader → Except SyntaxError α) :
    Except SlotError α :=
  (find (reader.skip slot.index)).mapError (⟨slot, ·⟩)

def statement (reader : Reader) : Except SlotError Assignment := do
  let target ← reader.inSlot .target (·.expect .identifier)
  let _ ← reader.inSlot .assign (·.expect .assign)
  let value ← reader.inSlot .value operand
  let _ ← reader.inSlot .semicolon (·.expect .semicolon)
  return ⟨target, value⟩

/-- The reader past the statement that begins at it: a statement is four tokens long. -/
def pastStatement (reader : Reader) : Reader :=
  reader.skip 4

def pastSemicolon (reader : Reader) : Reader :=
  { reader with rest := (reader.rest.dropWhile (·.kind ≠ .semicolon)).drop 1 }

/-- The reader past the statement that begins at it and has an error. The statement ends at the next
semicolon, which may be the very token in error. -/
def pastError (reader : Reader) (e : SlotError) : Reader :=
  (reader.skip e.slot.index).pastSemicolon

theorem length_rest_skip (reader : Reader) (count : Nat) :
    (reader.skip count).rest.length = reader.rest.length - count := by
  simp [skip]

theorem length_rest_pastStatement_lt {reader : Reader} (h : reader.rest ≠ []) :
    reader.pastStatement.rest.length < reader.rest.length := by
  have hlength := List.length_pos_iff.2 h
  rw [pastStatement, length_rest_skip]
  omega

theorem length_rest_pastSemicolon_le (reader : Reader) :
    reader.pastSemicolon.rest.length ≤ reader.rest.length - 1 := by
  have hdrop := (List.dropWhile_sublist (fun token : Token ↦ decide (token.kind ≠ .semicolon))
    (l := reader.rest)).length_le
  simp only [pastSemicolon, List.length_drop]
  omega

theorem length_rest_pastError_lt {reader : Reader} (h : reader.rest ≠ []) (e : SlotError) :
    (reader.pastError e).rest.length < reader.rest.length := by
  have hlength := List.length_pos_iff.2 h
  have hle := (reader.skip e.slot.index).length_rest_pastSemicolon_le
  rw [length_rest_skip] at hle
  rw [pastError]
  omega

/-- The statements from the reader on, up to the end of the tokens or the first error. -/
def statements (reader : Reader) : Attempt Assignment SlotError :=
  if h : reader.rest = [] then .finished
  else
    have := length_rest_pastStatement_lt h
    match reader.statement with
    | .ok statement => reader.pastStatement.statements.cons statement
    | .error e => .failed e
termination_by reader.rest.length

def program (reader : Reader) : Except SyntaxError Program :=
  reader.statements.toExcept.mapError SlotError.error

theorem statements_of_nil {reader : Reader} (h : reader.rest = []) :
    reader.statements = .finished := by
  rw [statements, dif_pos h]

theorem statements_of_ok {reader : Reader} {statement : Assignment} (h : reader.rest ≠ [])
    (hstatement : reader.statement = .ok statement) :
    reader.statements = reader.pastStatement.statements.cons statement := by
  rw [statements, dif_neg h, hstatement]

theorem statements_of_error {reader : Reader} {e : SlotError} (h : reader.rest ≠ [])
    (hstatement : reader.statement = .error e) : reader.statements = .failed e := by
  rw [statements, dif_neg h, hstatement]

/-- The sound statements among some tokens, and the errors of the others, each in order. -/
structure Recovery where
  program : Program
  errors : List SlotError
deriving DecidableEq

/-- All statements from the reader on, sound or not. -/
def recover (reader : Reader) : Recovery :=
  if h : reader.rest = [] then ⟨[], []⟩
  else
    match reader.statement with
    | .ok statement =>
      have := length_rest_pastStatement_lt h
      let later := reader.pastStatement.recover
      ⟨statement :: later.program, later.errors⟩
    | .error e =>
      have := length_rest_pastError_lt h e
      let later := (reader.pastError e).recover
      ⟨later.program, e :: later.errors⟩
termination_by reader.rest.length

theorem recover_of_nil {reader : Reader} (h : reader.rest = []) : reader.recover = ⟨[], []⟩ := by
  rw [recover, dif_pos h]

theorem recover_of_ok {reader : Reader} {statement : Assignment} (h : reader.rest ≠ [])
    (hstatement : reader.statement = .ok statement) :
    reader.recover =
      ⟨statement :: reader.pastStatement.recover.program, reader.pastStatement.recover.errors⟩ := by
  rw [recover, dif_neg h, hstatement]

theorem recover_of_error {reader : Reader} {e : SlotError} (h : reader.rest ≠ [])
    (hstatement : reader.statement = .error e) :
    reader.recover =
      ⟨(reader.pastError e).recover.program, e :: (reader.pastError e).recover.errors⟩ := by
  rw [recover, dif_neg h, hstatement]

end Reader

end StraightLine
