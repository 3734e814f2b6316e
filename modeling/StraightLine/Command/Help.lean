import StraightLine.Command.Request
import StraightLine.Text.Listing

/-!
# Help

The texts with which the program explains itself.
-/

namespace StraightLine.Command

def versionText : String :=
  "tinyfront 0.1.0\n"

def purpose : Stage → String
  | .tokens => "Print the tokens of a file"
  | .parse => "Parse a file and print its syntax tree"
  | .check => "Check a file and print its symbol table"
  | .ir => "Print the intermediate code of a file"

namespace Topic

def lines : Topic → List String
  | program =>
    ["Lexer, parser, and checker for a minimal assignment language.",
     "",
     "Usage: tinyfront [OPTIONS] <COMMAND>",
     "",
     "Commands:",
     s!"  tokens  {purpose .tokens}",
     s!"  parse   {purpose .parse}",
     s!"  check   {purpose .check}",
     s!"  ir      {purpose .ir}",
     "  repl    Read statements from stdin, one line at a time",
     "  help    Print this message or the help of the given subcommand(s)",
     "",
     "Options:",
     "  -v, --verbose  Log pipeline internals at debug level",
     "  -h, --help     Print help",
     "  -V, --version  Print version"]
  | report stage =>
    [purpose stage,
     "",
     s!"Usage: tinyfront {stage.name} [OPTIONS] <PATH>",
     "",
     "Arguments:",
     "  <PATH>  ",
     "",
     "Options:",
     "  -v, --verbose  Log pipeline internals at debug level",
     "  -h, --help     Print help"]
  | session true =>
    ["Read statements from stdin, one line at a time",
     "",
     "Usage: tinyfront repl [OPTIONS]",
     "",
     "Options:",
     "      --stage <STAGE>  How far to run each line [default: parse] " ++
       "[possible values: tokens, parse, check, ir]",
     "  -v, --verbose        Log pipeline internals at debug level",
     "  -h, --help           Print help (see more with '--help')"]
  | session false =>
    ["Read statements from stdin, one line at a time",
     "",
     "Usage: tinyfront repl [OPTIONS]",
     "",
     "Options:",
     "      --stage <STAGE>",
     "          How far to run each line",
     "",
     "          Possible values:",
     "          - tokens: Stop after lexing and list the tokens",
     "          - parse:  Stop after parsing and print the syntax tree",
     "          - check:  Run name resolution and print the symbol table",
     "          - ir:     Lower to intermediate code and print it",
     "          ",
     "          [default: parse]",
     "",
     "  -v, --verbose",
     "          Log pipeline internals at debug level",
     "",
     "  -h, --help",
     "          Print help (see a summary with '-h')"]
  | help =>
    ["Print this message or the help of the given subcommand(s)",
     "",
     "Usage: tinyfront help [COMMAND]...",
     "",
     "Arguments:",
     "  [COMMAND]...  Print help for the subcommand(s)"]

def text (topic : Topic) : String :=
  Text.listing topic.lines

end Topic

/-- What is said about a command line that is refused. Without anything to go by, that is the help
on the program. The wording of the other complaints is not the program's own and is left out. -/
def UsageError.text : UsageError → String
  | nothingAsked => Topic.program.text
  | _ => ""

end StraightLine.Command
