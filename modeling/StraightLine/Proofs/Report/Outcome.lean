import StraightLine.Proofs.Symbol.Relocation
import StraightLine.Report.Run

/-!
# What runs come to

The outcome of a run, its events left aside, is put together from the outcomes of the stages:
`outcome_report`. After the first stage it is a function of the tokens, and moving the tokens moves
the places named in an error and changes nothing else: `outcomeOfReader_relocate`.
-/

namespace StraightLine

open Text

namespace Run

variable {ε α β : Type}

theorem outcome_bind (run : Run ε α) (next : α → Run ε β) :
    (run >>= next).outcome = run.outcome.bind fun a ↦ (next a).outcome := by
  obtain ⟨events, outcome⟩ := run
  cases outcome <;> rfl

@[simp] theorem outcome_pure (a : α) : (pure a : Run ε α).outcome = .ok a := rfl

@[simp] theorem outcome_log (event : Event) : (log event : Run ε Unit).outcome = .ok () := rfl

@[simp] theorem outcome_lex (source : String) :
    (lex source).outcome = (Token.Lexer.ofSource source).tokenize.mapError .lexical := rfl

@[simp] theorem outcome_parse (tokens : List Token) :
    (parse tokens).outcome = (Reader.ofTokens tokens).program.mapError .syntactic := by
  have hattempt : (parse tokens).outcome =
      (Reader.ofTokens tokens).statements.toExcept.mapError (.syntactic ·.error) := rfl
  rw [hattempt, Reader.program]
  cases (Reader.ofTokens tokens).statements.toExcept <;> rfl

@[simp] theorem outcome_resolve (program : Program) :
    (resolve program).outcome =
      if program.resolve.isSound then .ok program.resolve.symbols
      else .error (.semantic program.resolve.faults) := rfl

@[simp] theorem outcome_lower (program : Program) : (lower program).outcome = .ok program.lower := rfl

end Run

def outcomeOfProgram (stage : Stage) (program : Program) : Except RunError String :=
  if stage = .parse then .ok (program.render ++ "Parse OK\n")
  else if program.resolve.isSound then
    .ok (if stage = .check then program.resolve.symbols.render
      else listing (program.lower.map Code.Copy.render))
  else .error (.semantic program.resolve.faults)

/-- What the stages after the first make of the tokens that a reader stands before. -/
def outcomeOfReader (stage : Stage) (reader : Reader) : Except RunError String :=
  (reader.program.mapError .syntactic).bind (outcomeOfProgram stage)

def outcomeOfTokens (stage : Stage) (tokens : List Token) : Except RunError String :=
  if stage = .tokens then .ok (listing (tokens.map Token.render))
  else outcomeOfReader stage (.ofTokens tokens)

/-- A run comes to what the stages make of the tokens, if there are any. -/
theorem outcome_report (stage : Stage) (source : String) :
    (report stage source).outcome =
      ((Token.Lexer.ofSource source).tokenize.mapError .lexical).bind (outcomeOfTokens stage) := by
  unfold report
  rw [Run.outcome_bind, Run.outcome_log, Except.bind, Run.outcome_bind, Run.outcome_lex]
  congr 1
  funext tokens
  unfold outcomeOfTokens outcomeOfReader
  by_cases htokens : stage = .tokens
  · rw [if_pos htokens, if_pos htokens, Run.outcome_pure]
  · rw [if_neg htokens, if_neg htokens, Run.outcome_bind, Run.outcome_parse]
    congr 1
    funext program
    unfold outcomeOfProgram
    by_cases hparse : stage = .parse
    · rw [if_pos hparse, if_pos hparse, Run.outcome_pure]
    · rw [if_neg hparse, if_neg hparse, Run.outcome_bind, Run.outcome_resolve]
      split
      · simp only [Except.bind]
        split
        · rfl
        · rw [Run.outcome_bind]
          rfl
      · rfl

/-! ## Moved tokens -/

def RunError.relocate (f : Position → Position) (g : Nat → Nat) (stop : Position) :
    RunError → RunError
  | lexical e => lexical { e with position := f e.position }
  | syntactic e => syntactic (e.relocate f stop)
  | semantic faults => semantic (faults.map (Undeclared.relocate g))

section Relocation

variable {f : Position → Position} {g : Nat → Nat} (hline : ∀ place, (f place).line = g place.line)
  (stop : Position)

include hline

theorem outcomeOfProgram_relocate (stage : Stage) (program : Program) :
    outcomeOfProgram stage (program.map (Assignment.relocate f)) =
      (outcomeOfProgram stage program).mapError (RunError.relocate f g stop) := by
  unfold outcomeOfProgram
  rw [Program.render_relocate, Program.resolve_relocate hline, Program.lower_relocate,
    Resolution.isSound_relocate]
  by_cases hparse : stage = .parse
  · rw [if_pos hparse, if_pos hparse]
    rfl
  · rw [if_neg hparse, if_neg hparse]
    split
    · rw [Resolution.relocate, SymbolTable.render_relocate]
      rfl
    · rfl

/-- Moved tokens are reported on as before, except that errors are moved along. -/
theorem outcomeOfReader_relocate (stage : Stage) (reader : Reader) :
    outcomeOfReader stage (reader.relocate f stop) =
      (outcomeOfReader stage reader).mapError (RunError.relocate f g stop) := by
  unfold outcomeOfReader
  rw [Reader.program_relocate]
  cases reader.program with
  | error e => rfl
  | ok program => exact outcomeOfProgram_relocate hline stop stage program

end Relocation

end StraightLine
