/-!
# Words of the command line

The words that follow the program's name are options where they begin with a hyphen and plain words
otherwise. A word of one hyphen holds one option for each letter, and a word of two hyphens holds a
named option, perhaps with a value after an equals sign. A lone hyphen is a plain word. Behind a
word of exactly two hyphens nothing is an option any more.
-/

namespace StraightLine.Command

/-- The options that only switch something on. -/
inductive Switch
  | verbose
  | help (brief : Bool)
  | version
deriving DecidableEq

inductive Item
  | plain (text : String)
  | switch (switch : Switch) (value? : Option String)
  | stage (value? : Option String)
  | unknown
  /-- All the words behind two hyphens. -/
  | rest (words : List String)
deriving DecidableEq

namespace Item

def ofName (name : String) (value? : Option String) : Item :=
  match name with
  | "verbose" => switch .verbose value?
  | "help" => switch (.help false) value?
  | "version" => switch .version value?
  | "stage" => stage value?
  | _ => unknown

def ofLetter : Char → Item
  | 'v' => switch .verbose none
  | 'h' => switch (.help true) none
  | 'V' => switch .version none
  | _ => unknown

/-- What follows the first equals sign. -/
def valueOf (body : List Char) : Option String :=
  match body.dropWhile (· ≠ '=') with
  | _ :: value => some (.ofList value)
  | [] => none

def ofWord (word : String) : List Item :=
  match word.toList with
  | '-' :: '-' :: body => [ofName (.ofList (body.takeWhile (· ≠ '='))) (valueOf body)]
  | '-' :: letter :: letters => (letter :: letters).map ofLetter
  | _ => [plain word]

def ofWords : List String → List Item
  | [] => []
  | word :: words => if word = "--" then [rest words] else ofWord word ++ ofWords words

end Item

end StraightLine.Command
