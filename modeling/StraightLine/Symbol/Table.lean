import StraightLine.Text.Listing

/-!
# Symbol tables

A symbol table lists the declared names in the order of their first declaration, each with the line
of that declaration and the type it was given last. `get?_define` and `names_define` say what a
declaration does to the table as a map and as a list.
-/

namespace StraightLine

inductive SymbolType
  | int
  | float
deriving DecidableEq

namespace SymbolType

def name : SymbolType → String
  | int => "int"
  | float => "float"

/-- The type of a number: one with a point is a float. -/
def ofLexeme (lexeme : String) : SymbolType :=
  if '.' ∈ lexeme.toList then float else int

end SymbolType

structure Symbol where
  type : SymbolType
  line : Nat
deriving DecidableEq

/-- The entries with a name declared: an entry for the name gets the type, and where there is none,
one is added at the end. -/
def defineEntry (name : String) (type : SymbolType) (line : Nat) :
    List (String × Symbol) → List (String × Symbol)
  | [] => [(name, ⟨type, line⟩)]
  | (other, symbol) :: entries =>
    if other = name then (other, { symbol with type }) :: entries
    else (other, symbol) :: defineEntry name type line entries

/-- The declared names in the order of their declaration. -/
structure SymbolTable where
  entries : List (String × Symbol)
deriving DecidableEq

namespace SymbolTable

def empty : SymbolTable := ⟨[]⟩

/-- The table after a declaration. A name keeps its place and line when it is declared again. -/
def define (table : SymbolTable) (name : String) (type : SymbolType) (line : Nat) : SymbolTable :=
  ⟨defineEntry name type line table.entries⟩

def get? (table : SymbolTable) (name : String) : Option Symbol :=
  table.entries.lookup name

def names (table : SymbolTable) : List String :=
  table.entries.map Prod.fst

def size (table : SymbolTable) : Nat :=
  table.entries.length

def isEmpty (table : SymbolTable) : Bool :=
  table.entries.isEmpty

theorem lookup_entry (name other : String) (symbol : Symbol) (entries : List (String × Symbol)) :
    ((name, symbol) :: entries).lookup other =
      if other = name then some symbol else entries.lookup other := by
  by_cases h : other = name
  · simp [h]
  · simp [List.lookup_cons, beq_eq_false_iff_ne.2 h, h]

theorem lookup_defineEntry (name other : String) (type : SymbolType) (line : Nat)
    (entries : List (String × Symbol)) :
    (defineEntry name type line entries).lookup other =
      if other = name then some ⟨type, ((entries.lookup name).map Symbol.line).getD line⟩
      else entries.lookup other := by
  induction entries with
  | nil => simp [defineEntry, lookup_entry]
  | cons entry entries ih =>
    obtain ⟨first, symbol⟩ := entry
    by_cases hfirst : first = name
    · by_cases h : other = name <;> simp [defineEntry, lookup_entry, hfirst, h]
    · by_cases h : other = first <;>
        simp [defineEntry, lookup_entry, hfirst, Ne.symm hfirst, h, ih]

/-- A declaration sets the type of its own name, keeps the line of an earlier one, and leaves the
other names alone. -/
theorem get?_define (table : SymbolTable) (name other : String) (type : SymbolType) (line : Nat) :
    (table.define name type line).get? other =
      if other = name then some ⟨type, ((table.get? name).map Symbol.line).getD line⟩
      else table.get? other :=
  lookup_defineEntry name other type line table.entries

theorem names_defineEntry (name : String) (type : SymbolType) (line : Nat)
    (entries : List (String × Symbol)) :
    (defineEntry name type line entries).map Prod.fst =
      if name ∈ entries.map Prod.fst then entries.map Prod.fst
      else entries.map Prod.fst ++ [name] := by
  induction entries with
  | nil => simp [defineEntry]
  | cons entry entries ih =>
    obtain ⟨first, symbol⟩ := entry
    by_cases hfirst : first = name
    · simp [defineEntry, hfirst]
    · by_cases h : name ∈ entries.map Prod.fst <;> simp_all [defineEntry, Ne.symm hfirst]

/-- A name that is new goes to the end of the list; one that is not keeps its place. -/
theorem names_define (table : SymbolTable) (name : String) (type : SymbolType) (line : Nat) :
    (table.define name type line).names =
      if name ∈ table.names then table.names else table.names ++ [name] :=
  names_defineEntry name type line table.entries

/-- The names and their types, one on each line, or a remark that there are none. -/
def render (table : SymbolTable) : String :=
  if table.isEmpty then "(empty)\n"
  else Text.listing (table.entries.map fun (name, symbol) ↦ s!"{name} : {symbol.type.name}")

end SymbolTable

end StraightLine
