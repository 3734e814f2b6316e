import StraightLine.Command.Performance

/-!
# The program

The outer layer: it reads the command line, the files and the standard input, and writes what the
library makes of them. A session is answered line by line while it is typed. Verbose runs log their
events on the error output, apart from the single tokens and statements.
-/

namespace StraightLine

/-- The next line of a stream, without the line feed that ends it, if there is a next line. The bytes of
it that have been read already are in front. -/
partial def readLine? (stream : IO.FS.Stream) (front : ByteArray) : IO (Option Text.Bytes) := do
  let byte ← stream.read 1
  if byte.isEmpty then
    return if front.isEmpty then none else some front.data.toList
  if byte[0]? = some Text.lineFeed then return some front.data.toList
  readLine? stream (front ++ byte)

def readFile? (path : String) : IO (Option Text.Bytes) := do
  try
    let content ← IO.FS.readBinFile path
    return some content.data.toList
  catch _ => return none

def logEvents (verbose : Bool) (events : List Event) : IO Unit := do
  if verbose then
    for event in events do
      if event.level = .debug then IO.eprintln event.render

def finish (completion : Command.Completion) : IO UInt32 := do
  IO.print completion.out
  IO.eprint completion.err
  return completion.code.toUInt32

/-- Holds a session from a line on, turn by turn, and gives the code of the program. -/
partial def holdSession (verbose : Bool) (stage : Stage) : IO UInt32 := do
  IO.print (Session.prompt stage)
  (← IO.getStdout).flush
  let turn := Session.turn stage (← readLine? (← IO.getStdin) .empty)
  logEvents verbose turn.events
  IO.print turn.out
  IO.eprint turn.err
  match turn.next with
  | .line later => holdSession verbose later
  | .closed => finish (Command.Performance.mk .success "" "" []).complete
  | .interrupted => finish (Command.Performance.mk .interrupted "" "" []).complete

end StraightLine

open StraightLine in
def main (words : List String) : IO UInt32 := do
  match Command.Request.ofWords words with
  | .ok (.perform verbose (.converse stage)) => holdSession verbose stage
  | .ok (.perform verbose (.report stage path)) =>
    let content? ← readFile? path
    let performance := (Command.Task.report stage path).perform (fun _ ↦ content?) []
    logEvents verbose performance.events
    finish performance.complete
  | _ => finish (Command.run words (fun _ ↦ none) [])
