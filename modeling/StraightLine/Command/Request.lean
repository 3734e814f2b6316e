import StraightLine.Command.Words
import StraightLine.Report.Stage

/-!
# Requests

A command line names a command, with options of the program before it and options of the command
after it. The first thing that does not fit decides how a command line is refused. A value is looked
at only when the next option that is known comes along, or at the end of the line; so an unknown
option is noticed before a bad value that precedes it.
-/

namespace StraightLine.Command

/-- What the program does when it does not merely inform. -/
inductive Task
  | report (stage : Stage) (path : String)
  | converse (stage : Stage)
deriving DecidableEq

inductive Topic
  | program
  | report (stage : Stage)
  | session (brief : Bool)
  | help
deriving DecidableEq

inductive Request
  | perform (verbose : Bool) (task : Task)
  | help (topic : Topic)
  | version
deriving DecidableEq

inductive UsageError
  /-- There is nothing on the command line. -/
  | nothingAsked
  | missingCommand
  | unknownCommand
  | missingPath
  | unknownArgument
  /-- An option that may be given once is given again. -/
  | repeatedOption
  /-- A value is given to an option that takes none. -/
  | needlessValue
  /-- A value is missing, or is not one of the values allowed. -/
  | invalidValue
deriving DecidableEq

inductive Name
  | report (stage : Stage)
  | session
  | help
deriving DecidableEq

def Name.ofText? (text : String) : Option Name :=
  match text with
  | "repl" => some session
  | "help" => some help
  | _ => (Stage.ofName text).toOption.map report

/-- The options of the command that reports on a file, as far as they have been read. -/
structure ReportOptions where
  verbose : Bool
  path? : Option String
deriving DecidableEq

namespace ReportOptions

/-- Looks at the path read last: it must not be empty. -/
def settle (options : ReportOptions) : Except UsageError ReportOptions :=
  if options.path? = some "" then .error .invalidValue else .ok options

def addPath (options : ReportOptions) (path : String) : Except UsageError ReportOptions :=
  match options.path? with
  | none => .ok { options with path? := some path }
  | some _ => .error .unknownArgument

def finish (stage : Stage) (outerVerbose : Bool) (options : ReportOptions) :
    Except UsageError Request := do
  let options ← options.settle
  match options.path? with
  | some path => return .perform (outerVerbose || options.verbose) (.report stage path)
  | none => throw .missingPath

def read (stage : Stage) (outerVerbose : Bool) (options : ReportOptions) :
    List Item → Except UsageError Request
  | [] => options.finish stage outerVerbose
  | .plain path :: items => do
    let options ← options.addPath path
    options.read stage outerVerbose items
  | .switch .verbose none :: items => do
    let options ← options.settle
    if options.verbose then throw .repeatedOption
    read stage outerVerbose { options with verbose := true } items
  | .switch (.help _) none :: _ => do
    let _ ← options.settle
    return .help (.report stage)
  | .switch .version _ :: _ => .error .unknownArgument
  | .switch _ (some _) :: _ => .error .needlessValue
  | .stage _ :: _ => .error .unknownArgument
  | .unknown :: _ => .error .unknownArgument
  | .rest paths :: _ => do
    let options ← paths.foldlM addPath options
    options.finish stage outerVerbose

end ReportOptions

/-- The value of the option for the stage that has been read but not yet looked at. -/
inductive PendingStage
  | nothing
  | awaited
  | given (name : String)
deriving DecidableEq

structure SessionOptions where
  verbose : Bool
  stage? : Option Stage
  pending : PendingStage
deriving DecidableEq

namespace SessionOptions

/-- Looks at the option for the stage that was read last, if that has not been done. -/
def settle (options : SessionOptions) : Except UsageError SessionOptions :=
  match options.pending with
  | .nothing => .ok options
  | .awaited => .error .invalidValue
  | .given name =>
    if options.stage?.isSome then .error .repeatedOption
    else match Stage.ofName name with
      | .ok stage => .ok { options with stage? := some stage, pending := .nothing }
      | .error _ => .error .invalidValue

/-- The options after a plain word, which has to be the value of an option. -/
def addWord (options : SessionOptions) (word : String) : Except UsageError SessionOptions :=
  match options.pending with
  | .awaited => .ok { options with pending := .given word }
  | _ => .error .unknownArgument

def finish (outerVerbose : Bool) (options : SessionOptions) : Except UsageError Request := do
  let options ← options.settle
  return .perform (outerVerbose || options.verbose)
    (.converse (options.stage?.getD .standard))

def read (outerVerbose : Bool) (options : SessionOptions) : List Item → Except UsageError Request
  | [] => options.finish outerVerbose
  | .plain word :: items => do
    let options ← options.addWord word
    options.read outerVerbose items
  | .switch .verbose none :: items => do
    let options ← options.settle
    if options.verbose then throw .repeatedOption
    read outerVerbose { options with verbose := true } items
  | .switch (.help brief) none :: _ => do
    let _ ← options.settle
    return .help (.session brief)
  | .switch .version _ :: _ => .error .unknownArgument
  | .switch _ (some _) :: _ => .error .needlessValue
  | .stage none :: items => do
    let options ← options.settle
    read outerVerbose { options with pending := .awaited } items
  | .stage (some name) :: items => do
    let options ← options.settle
    let options ← { options with pending := .given name : SessionOptions }.settle
    options.read outerVerbose items
  | .unknown :: _ => .error .unknownArgument
  | .rest [] :: _ => options.finish outerVerbose
  | .rest (_ :: _) :: _ => .error .unknownArgument

end SessionOptions

namespace Request

def readHelp : List Item → Except UsageError Request
  | [] => .ok (.help .program)
  | [.plain text] =>
    match Name.ofText? text with
    | some (.report stage) => .ok (.help (.report stage))
    | some .session => .ok (.help (.session false))
    | some .help => .ok (.help .help)
    | none => .error .unknownCommand
  | _ => .error .unknownCommand

/-- The end of a command line without a command. -/
def finish (verbose : Bool) : Except UsageError Request :=
  .error (if verbose then .missingCommand else .nothingAsked)

def read (verbose : Bool) : List Item → Except UsageError Request
  | [] => finish verbose
  | .plain text :: items =>
    match Name.ofText? text with
    | some (.report stage) => ReportOptions.read stage verbose ⟨false, none⟩ items
    | some .session => SessionOptions.read verbose ⟨false, none, .nothing⟩ items
    | some .help => readHelp items
    | none => .error .unknownCommand
  | .switch .verbose none :: items =>
    if verbose then .error .repeatedOption else read true items
  | .switch (.help _) none :: _ => .ok (.help .program)
  | .switch .version none :: _ => .ok .version
  | .switch _ (some _) :: _ => .error .needlessValue
  | .stage _ :: _ => .error .unknownArgument
  | .unknown :: _ => .error .unknownArgument
  | .rest [] :: _ => finish verbose
  | .rest (text :: _) :: _ =>
    .error (if (Name.ofText? text).isSome then .unknownArgument else .unknownCommand)

def ofWords (words : List String) : Except UsageError Request :=
  read false (Item.ofWords words)

end Request

end StraightLine.Command
