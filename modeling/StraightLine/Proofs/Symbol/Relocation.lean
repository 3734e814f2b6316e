import StraightLine.Proofs.Program.Relocation
import StraightLine.Symbol.Resolution

/-!
# Symbols whose declarations stand elsewhere

Resolution keeps the lines of declarations and of faults, but no decision depends on them. If moving
the tokens of a program changes lines in a uniform way, then the resolution is the same up to these
lines: `resolve_relocate`. Symbol tables are rendered without them.
-/

namespace StraightLine

def Symbol.relocate (g : Nat → Nat) (symbol : Symbol) : Symbol :=
  { symbol with line := g symbol.line }

def Undeclared.relocate (g : Nat → Nat) (fault : Undeclared) : Undeclared :=
  { fault with line := g fault.line }

namespace SymbolTable

variable (g : Nat → Nat)

def relocate (table : SymbolTable) : SymbolTable :=
  ⟨table.entries.map (Prod.map id (Symbol.relocate g))⟩

theorem lookup_relocate (name : String) (entries : List (String × Symbol)) :
    (entries.map (Prod.map id (Symbol.relocate g))).lookup name =
      (entries.lookup name).map (Symbol.relocate g) := by
  induction entries with
  | nil => rfl
  | cons entry entries ih =>
    obtain ⟨first, symbol⟩ := entry
    rw [List.map_cons, Prod.map_apply, lookup_entry, lookup_entry, id_eq, ih]
    split <;> rfl

theorem get?_relocate (table : SymbolTable) (name : String) :
    (table.relocate g).get? name = (table.get? name).map (Symbol.relocate g) :=
  lookup_relocate g name table.entries

theorem defineEntry_relocate (name : String) (type : SymbolType) (line : Nat)
    (entries : List (String × Symbol)) :
    defineEntry name type (g line) (entries.map (Prod.map id (Symbol.relocate g))) =
      (defineEntry name type line entries).map (Prod.map id (Symbol.relocate g)) := by
  induction entries with
  | nil => rfl
  | cons entry entries ih =>
    obtain ⟨first, symbol⟩ := entry
    rw [List.map_cons, Prod.map_apply, defineEntry, defineEntry]
    by_cases hfirst : first = name
    · simp [hfirst, Symbol.relocate]
    · simp [hfirst, ih]

theorem define_relocate (table : SymbolTable) (name : String) (type : SymbolType) (line : Nat) :
    (table.relocate g).define name type (g line) = (table.define name type line).relocate g :=
  congrArg mk (defineEntry_relocate g name type line table.entries)

theorem render_relocate (table : SymbolTable) : (table.relocate g).render = table.render := by
  simp [render, isEmpty, relocate, Symbol.relocate, Function.comp_def]

end SymbolTable

namespace Resolution

def relocate (g : Nat → Nat) (resolution : Resolution) : Resolution :=
  ⟨resolution.symbols.relocate g, resolution.faults.map (Undeclared.relocate g)⟩

theorem isSound_relocate (g : Nat → Nat) (resolution : Resolution) :
    (resolution.relocate g).isSound = resolution.isSound := by
  simp [isSound, relocate]

end Resolution

section Lines

variable {f : Position → Position} {g : Nat → Nat} (hline : ∀ place, (f place).line = g place.line)

include hline

theorem Operand.type_relocate (table : SymbolTable) (operand : Operand) :
    (operand.relocate f).type (table.relocate g) =
      (operand.type table).mapError (Undeclared.relocate g) := by
  cases operand with
  | number token => rfl
  | identifier token =>
    simp only [relocate, type, Token.relocate, SymbolTable.get?_relocate]
    cases table.get? token.lexeme with
    | some symbol => rfl
    | none =>
      exact congrArg (fun line ↦ Except.error (Undeclared.mk token.lexeme line))
        (hline token.position)

theorem Assignment.declare_relocate (table : SymbolTable) (statement : Assignment) :
    (statement.relocate f).declare (table.relocate g) =
      ((statement.declare table).map (SymbolTable.relocate g)).mapError
        (Undeclared.relocate g) := by
  have htarget : (statement.relocate f).line = g statement.line := hline _
  unfold declare
  rw [name_relocate, value_relocate, htarget, Operand.type_relocate hline]
  cases statement.value.type table with
  | error fault => rfl
  | ok type =>
    exact congrArg Except.ok
      (SymbolTable.define_relocate g table statement.name type statement.line)

theorem Resolution.ofStatements_relocate (table : SymbolTable) (program : Program) :
    ofStatements (table.relocate g) (program.map (Assignment.relocate f)) =
      (ofStatements table program).relocate g := by
  induction program generalizing table with
  | nil => rfl
  | cons statement program ih =>
    rw [List.map_cons, ofStatements, ofStatements, Assignment.declare_relocate hline]
    cases statement.declare table with
    | ok table => exact ih table
    | error fault =>
      exact congrArg (fun later : Resolution ↦
        { later with faults := fault.relocate g :: later.faults }) (ih table)

/-- The lines of a resolution move with the tokens of its program. -/
theorem Program.resolve_relocate (program : Program) :
    Program.resolve (program.map (Assignment.relocate f)) = program.resolve.relocate g :=
  Resolution.ofStatements_relocate hline .empty program

end Lines

end StraightLine
