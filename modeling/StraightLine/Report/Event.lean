import StraightLine.Program.Basic
import StraightLine.Report.Stage

/-!
# Events

A run logs what it does, and so does a session at its end. An event has a level, a message, and named
fields whose values are written as text.
-/

namespace StraightLine

inductive Event.Level
  | debug
  | trace
deriving DecidableEq

def Event.Level.name : Event.Level → String
  | debug => "DEBUG"
  | trace => "TRACE"

inductive Event
  | started (stage : Stage) (bytes : Nat)
  | scannedToken (token : Token)
  | lexedSource (count : Nat)
  | parsedStatement (statement : Assignment)
  | parsedProgram (statements : Nat)
  | resolvedProgram (symbols faults : Nat)
  | loweredProgram (count : Nat)
  /-- A session has come to the end of its input. -/
  | inputClosed (stage : Stage)
deriving DecidableEq

namespace Event

/-- Single tokens and statements are traced; the rest is for debugging. -/
def level : Event → Level
  | scannedToken _ | parsedStatement _ => .trace
  | _ => .debug

def message : Event → String
  | started _ _ => "running frontend"
  | scannedToken _ => "scanned token"
  | lexedSource _ => "lexed source"
  | parsedStatement _ => "parsed statement"
  | parsedProgram _ => "parsed program"
  | resolvedProgram _ _ => "analyzed program"
  | loweredProgram _ => "generated intermediate code"
  | inputClosed _ => "repl input closed"

def stageLabel : Stage → String
  | .tokens => "Tokens"
  | .parse => "Parse"
  | .check => "Check"
  | .ir => "Ir"

def fields : Event → List (String × String)
  | started stage bytes => [("stage", stageLabel stage), ("bytes", toString bytes)]
  | scannedToken token => [("token", token.render)]
  | lexedSource count => [("count", toString count)]
  | parsedStatement statement => [("statement", statement.render)]
  | parsedProgram statements => [("statements", toString statements)]
  | resolvedProgram symbols faults =>
    [("symbols", toString symbols), ("diagnostics", toString faults)]
  | loweredProgram count => [("count", toString count)]
  | inputClosed stage => [("stage", stageLabel stage)]

def render (event : Event) : String :=
  " ".intercalate <|
    [event.level.name, event.message] ++ event.fields.map fun (name, value) ↦ s!"{name}={value}"

end Event

end StraightLine
