import StraightLine.Report.Run
import StraightLine.Text.Bytes
import StraightLine.Text.WhiteSpace

/-!
# Sessions

In a session lines are typed one at a time, each answered before the next. A line is a source to be
run up to the stage then in force, or a command about that stage if it begins with a colon. Nothing
but the stage is carried from one line to the next.
-/

namespace StraightLine.Session

inductive Line
  | blank
  | source (text : String)
  | showStage
  | chooseStage (name : String)
  | unknown (command : String)
deriving DecidableEq

/-- The reading of a line; white space at its ends does not count. -/
def Line.ofText (text : String) : Line :=
  let trimmed := Text.trim text
  match trimmed.toList with
  | [] => blank
  | ':' :: command =>
    match Text.words (.ofList command) with
    | ["stage"] => showStage
    | ["stage", name] => chooseStage name
    | _ => unknown (.ofList command)
  | _ => source trimmed

inductive LineError
  | run (e : RunError)
  | unknownStage (e : UnknownStage)
  | unknownCommand (command : String)
deriving DecidableEq

def LineError.message : LineError → String
  | run e => e.message
  | unknownStage e => s!"Invalid command: Unknown stage '{e.name}'"
  | unknownCommand command => s!"Invalid command: Unknown command ':{command}'"

/-- The run that answers a line, and the stage in force after it. -/
structure Reply where
  run : Run LineError String
  stage : Stage

namespace Reply

def out (reply : Reply) : String :=
  match reply.run.outcome with
  | .ok text => text
  | .error _ => ""

def err (reply : Reply) : String :=
  match reply.run.outcome with
  | .ok _ => ""
  | .error e => e.message ++ "\n"

end Reply

def Line.reply (stage : Stage) : Line → Reply
  | blank => ⟨pure "", stage⟩
  | source text => ⟨(report stage text).mapError .run, stage⟩
  | showStage => ⟨pure (stage.name ++ "\n"), stage⟩
  | chooseStage name =>
    match Stage.ofNameAnyCase name with
    | .ok chosen => ⟨pure s!"Stage set to {chosen.name}\n", chosen⟩
    | .error e => ⟨.fail (.unknownStage e), stage⟩
  | unknown command => ⟨.fail (.unknownCommand command), stage⟩

/-- The invitation to type a line. -/
def prompt (stage : Stage) : String :=
  stage.name ++ "> "

/-- How a session goes on: with the next line, at some stage, or not at all. -/
inductive Next
  | line (stage : Stage)
  | closed
  | interrupted
deriving DecidableEq

/-- What a session does after it has asked for a line. -/
structure Turn where
  out : String
  err : String
  events : List Event
  next : Next

/-- The turn of a session at a stage, given the line that was typed, or none at the end of the input.
A line that is not text ends the session without an answer. -/
def turn (stage : Stage) : Option Text.Bytes → Turn
  | none => ⟨"\n", "", [.inputClosed stage], .closed⟩
  | some line =>
    match line.text? with
    | none => ⟨"", "", [], .interrupted⟩
    | some text =>
      let reply := (Line.ofText text).reply stage
      ⟨reply.out, reply.err, reply.run.events, .line reply.stage⟩

/-- All that a session writes, and whether it came to the end of its input. -/
structure Transcript where
  out : String
  err : String
  finished : Bool
  events : List Event

def Turn.transcript (stage : Stage) (turn : Turn) : Transcript :=
  ⟨prompt stage ++ turn.out, turn.err, turn.next = .closed, turn.events⟩

def Transcript.append (front later : Transcript) : Transcript :=
  ⟨front.out ++ later.out, front.err ++ later.err, later.finished, front.events ++ later.events⟩

/-- The session on some lines, turn by turn. -/
def converse (stage : Stage) : List Text.Bytes → Transcript
  | [] => (turn stage none).transcript stage
  | line :: lines =>
    let turn := turn stage (some line)
    match turn.next with
    | .line later => (turn.transcript stage).append (converse later lines)
    | _ => turn.transcript stage

end StraightLine.Session
