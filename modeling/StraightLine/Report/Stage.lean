/-!
# Stages

A source can be taken through four stages, each building on the one before it. The stage at which a
run stops decides what is reported.
-/

namespace StraightLine

inductive Stage
  | tokens
  | parse
  | check
  | ir
deriving DecidableEq

structure UnknownStage where
  name : String
deriving DecidableEq

namespace Stage

def standard : Stage := parse

def name : Stage → String
  | tokens => "tokens"
  | parse => "parse"
  | check => "check"
  | ir => "ir"

def all : List Stage := [tokens, parse, check, ir]

def ofName (name : String) : Except UnknownStage Stage :=
  match all.find? (·.name = name) with
  | some stage => .ok stage
  | none => .error ⟨name⟩

/-- The stage of a given name, where the case of ASCII letters does not matter. -/
def ofNameAnyCase (name : String) : Except UnknownStage Stage :=
  match all.find? (·.name.toList = name.toList.map Char.toLower) with
  | some stage => .ok stage
  | none => .error ⟨name⟩

end Stage

end StraightLine
