import StraightLine.Code.Basic
import StraightLine.Program.Reader
import StraightLine.Report.Event
import StraightLine.Symbol.Resolution
import StraightLine.Token.Lexer

/-!
# Runs

A run takes a source through the stages one after the other, up to the chosen one, and reports what
that stage makes of it. The first stage that fails ends the run. Whatever the outcome, a run leaves
the events that it logged on the way.
-/

namespace StraightLine

inductive RunError
  | lexical (e : Token.UnknownCharacter)
  | syntactic (e : SyntaxError)
  | semantic (faults : List Undeclared)
deriving DecidableEq

def RunError.message : RunError → String
  | lexical e => s!"Lex error: {e.message}"
  | syntactic e => s!"Parse error: {e.message}"
  | semantic faults => "Semantic errors:\n" ++ "\n".intercalate (faults.map Undeclared.message)

/-- The events of a run, or of a part of one, and its outcome. -/
structure Run (ε α : Type) where
  events : List Event
  outcome : Except ε α

namespace Run

variable {ε ε' α : Type}

instance : Monad (Run ε) where
  pure a := ⟨[], .ok a⟩
  bind run next :=
    match run.outcome with
    | .ok a => ⟨run.events ++ (next a).events, (next a).outcome⟩
    | .error e => ⟨run.events, .error e⟩

def log (event : Event) : Run ε Unit :=
  ⟨[event], .ok ()⟩

def fail (e : ε) : Run ε α :=
  ⟨[], .error e⟩

def mapError (f : ε → ε') (run : Run ε α) : Run ε' α :=
  ⟨run.events, run.outcome.mapError f⟩

/-- An attempt as part of a run: an event for each thing that was read, and one more for all of them
if there was no failure. -/
def ofAttempt (each : α → Event) (all : Nat → Event) (blame : ε → RunError)
    (attempt : Attempt α ε) : Run RunError (List α) where
  events := attempt.items.map each ++
    if attempt.failure?.isNone then [all attempt.items.length] else []
  outcome := attempt.toExcept.mapError blame

def lex (source : String) : Run RunError (List Token) :=
  ofAttempt .scannedToken .lexedSource .lexical (Token.Lexer.ofSource source).remaining

def parse (tokens : List Token) : Run RunError Program :=
  ofAttempt .parsedStatement .parsedProgram (.syntactic ·.error) (Reader.ofTokens tokens).statements

def resolve (program : Program) : Run RunError SymbolTable :=
  let resolution := program.resolve
  { events := [.resolvedProgram resolution.symbols.size resolution.faults.length]
    outcome := if resolution.isSound then .ok resolution.symbols
      else .error (.semantic resolution.faults) }

def lower (program : Program) : Run RunError (List Code.Copy) :=
  let code := program.lower
  { events := [.loweredProgram code.length]
    outcome := .ok code }

end Run

/-- The run of a source up to a stage, with that stage's report. -/
def report (stage : Stage) (source : String) : Run RunError String := do
  Run.log (.started stage source.utf8ByteSize)
  let tokens ← Run.lex source
  if stage = .tokens then
    return Text.listing (tokens.map Token.render)
  let program ← Run.parse tokens
  if stage = .parse then
    return program.render ++ "Parse OK\n"
  let symbols ← Run.resolve program
  if stage = .check then
    return symbols.render
  let code ← Run.lower program
  return Text.listing (code.map Code.Copy.render)

end StraightLine
