import StraightLine.Command.Help
import StraightLine.Session

/-!
# Performance of requests

A request is performed with files and input at hand. A report goes to the output; why there is none
goes to the error output, behind the path of the file. A session takes its lines from the input.
-/

namespace StraightLine.Command

inductive FileError
  | unreadable (path : String)
  | run (e : RunError)
deriving DecidableEq

def FileError.message : FileError → String
  | unreadable path => s!"InternalError: Failed to read {path}"
  | run e => e.message

inductive Status
  | success
  | failure
  /-- The input held a line that is not text. -/
  | interrupted
deriving DecidableEq

/-- What a task wrote and logged, and how it ended. -/
structure Performance where
  status : Status
  out : String
  err : String
  events : List Event

/-- The run of the file at a path. Its content is missing if there is no such file. -/
def reportFile (stage : Stage) (path : String) (content? : Option Text.Bytes) :
    Run FileError String :=
  match content?.bind Text.Bytes.text? with
  | some source => (report stage source).mapError .run
  | none => .fail (.unreadable path)

namespace Task

/-- The performance of a task, given how files are read and all of the input. -/
def perform (read? : String → Option Text.Bytes) (input : Text.Bytes) : Task → Performance
  | report stage path =>
    let run := reportFile stage path (read? path)
    match run.outcome with
    | .ok text => ⟨.success, text, "", run.events⟩
    | .error e => ⟨.failure, "", s!"{path}: {e.message}\n", run.events⟩
  | converse stage =>
    let transcript := Session.converse stage input.lines
    ⟨if transcript.finished then .success else .interrupted, transcript.out, transcript.err,
      transcript.events⟩

end Task

/-- The complaint about a line that is not text. -/
def interruptedMessage : String :=
  "stream did not contain valid UTF-8"

/-- What the program leaves behind: a code, and what it wrote. -/
structure Completion where
  code : Nat
  out : String
  err : String

namespace Performance

def complete (performance : Performance) : Completion :=
  match performance.status with
  | .success => ⟨0, performance.out, performance.err⟩
  | .failure => ⟨1, performance.out, performance.err⟩
  | .interrupted =>
    ⟨1, performance.out, performance.err ++ s!"Failed write output: {interruptedMessage}\n"⟩

end Performance

/-- The program as a whole: what it makes of a command line, some files and its input. -/
def run (words : List String) (read? : String → Option Text.Bytes) (input : Text.Bytes) :
    Completion :=
  match Request.ofWords words with
  | .ok (.perform _ task) => (task.perform read? input).complete
  | .ok (.help topic) => ⟨0, topic.text, ""⟩
  | .ok .version => ⟨0, versionText, ""⟩
  | .error e => ⟨2, "", e.text⟩

end StraightLine.Command
