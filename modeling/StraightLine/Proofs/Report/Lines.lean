import StraightLine.Proofs.Report.Listing
import StraightLine.Proofs.Text.Form
import StraightLine.Proofs.Text.Lines

/-!
# The lines of reports

Every report is a listing whose entries stay on one line each, so that its lines can be counted: one
for each token, for each statement and the closing remark, for each name or the remark that there is
none, and for each copy.
-/

namespace StraightLine

namespace Text

/-! ## Texts on one line -/

def IsLine (text : String) : Prop := '\n' ∉ text.toList

instance (text : String) : Decidable (IsLine text) :=
  inferInstanceAs (Decidable (_ ∉ _))

@[simp] theorem isLine_append {text other : String} :
    IsLine (text ++ other) ↔ IsLine text ∧ IsLine other := by
  simp [IsLine, not_or]

theorem lineFeed_not_mem_toDigits {base : Nat} (hbase : 1 < base) (number : Nat) :
    '\n' ∉ Nat.toDigits base number :=
  not_mem_toDigits (fun _ ↦ Nat.digitChar_ne '\n' (by decide)) hbase number

@[simp] theorem isLine_repr (number : Nat) : IsLine number.repr := by
  rw [IsLine, Nat.repr_eq_ofList_toDigits, String.toList_ofList]
  exact lineFeed_not_mem_toDigits (by decide) number

theorem lineFeed_not_mem_escape (c : Char) : '\n' ∉ escape c := by
  unfold escape
  split
  -- the characters without an escape of their own
  case h_7 hquote hbackslash hnull htab hfeed hreturn =>
    split
    · simpa using Ne.symm hfeed
    · simp [codePointEscape, lineFeed_not_mem_toDigits]
  all_goals decide

/-- Quoted text stays on one line, whatever the text is. -/
@[simp] theorem isLine_quote (text : String) : IsLine (quote text) := by
  simp [IsLine, quote, lineFeed_not_mem_escape]

def lineCount (text : String) : Nat := (lines text).length

theorem lineCount_listing {entries : List String} (h : ∀ entry ∈ entries, IsLine entry) :
    lineCount (listing entries) = entries.length := by
  rw [lineCount, lines_listing h]

end Text

open Text Token

/-! ## Entries -/

@[simp] theorem Position.isLine_render (p : Position) : IsLine p.render := by
  have hrender : p.render = "line " ++ p.line.repr ++ ", column " ++ p.column.repr := rfl
  have hline : IsLine "line " := by decide
  have hcolumn : IsLine ", column " := by decide
  simp [hrender, hline, hcolumn]

theorem Token.isLine_render (token : Token) : IsLine token.render := by
  have hrender : token.render = "(" ++ token.kind.name ++ ", " ++ Text.quote token.lexeme ++
      ") at " ++ token.position.render := rfl
  have hkind : IsLine token.kind.name := by cases token.kind <;> decide
  have hopen : IsLine "(" := by decide
  have hcomma : IsLine ", " := by decide
  have hclose : IsLine ") at " := by decide
  simp [hrender, hkind, hopen, hcomma, hclose]

theorem Assignment.isLine_render {statement : Assignment} (hname : IsLine statement.name)
    (hvalue : IsLine statement.value.lexeme) : IsLine statement.render := by
  have hrender : statement.render =
      "(= " ++ statement.name ++ " " ++ statement.value.lexeme ++ ")" := rfl
  have hopen : IsLine "(= " := by decide
  have hspace : IsLine " " := by decide
  have hclose : IsLine ")" := by decide
  simp [hrender, hname, hvalue, hopen, hspace, hclose]

theorem SymbolType.isLine_name (type : SymbolType) : IsLine type.name := by
  cases type <;> decide

/-! ## Reports -/

theorem lineCount_tokens (tokens : List Token) :
    lineCount (listing (tokens.map Token.render)) = tokens.length := by
  rw [lineCount_listing, List.length_map]
  intro entry hentry
  obtain ⟨token, -, rfl⟩ := List.mem_map.1 hentry
  exact token.isLine_render

/-- The trees of a program are followed by a remark. -/
theorem lineCount_program {program : Program}
    (h : ∀ statement ∈ program, IsLine statement.name ∧ IsLine statement.value.lexeme) :
    lineCount (program.render ++ "Parse OK\n") = program.length + 1 := by
  have hrender : program.render ++ "Parse OK\n" =
      listing (program.map Assignment.render ++ ["Parse OK"]) := by
    rw [← String.toList_inj]
    simp [Program.render, toList_listing]
  rw [hrender, lineCount_listing]
  · simp
  · intro entry hentry
    rcases List.mem_append.1 hentry with htree | hremark
    · obtain ⟨statement, hstatement, rfl⟩ := List.mem_map.1 htree
      obtain ⟨hname, hvalue⟩ := h statement hstatement
      exact Assignment.isLine_render hname hvalue
    · obtain rfl := List.mem_singleton.1 hremark
      decide

/-- A table without names is shown by a remark. -/
theorem lineCount_symbols {table : SymbolTable} (h : ∀ name ∈ table.names, IsLine name) :
    lineCount table.render = max 1 table.size := by
  unfold SymbolTable.render
  split
  · next hempty =>
    have hentries : table.entries = [] := List.isEmpty_iff.1 hempty
    have hremark : lineCount "(empty)\n" = 1 := by decide
    rw [hremark, SymbolTable.size, hentries]
    rfl
  · next hempty =>
    have hsize : 1 ≤ table.size := by
      rw [SymbolTable.size, Nat.one_le_iff_ne_zero, Ne, List.length_eq_zero_iff, ← List.isEmpty_iff]
      exact hempty
    rw [lineCount_listing, List.length_map, max_eq_right hsize, SymbolTable.size]
    intro entry hentry
    obtain ⟨⟨name, symbol⟩, hmem, rfl⟩ := List.mem_map.1 hentry
    have hrender : s!"{name} : {symbol.type.name}" = name ++ " : " ++ symbol.type.name := rfl
    have hname : IsLine name := h name (List.mem_map_of_mem hmem)
    have hcolon : IsLine " : " := by decide
    simp [hrender, hname, hcolon, symbol.type.isLine_name]

theorem lineCount_code {code : List Code.Copy} (h : ∀ copy ∈ code, copy.IsSpelled) :
    lineCount (listing (code.map Code.Copy.render)) = code.length := by
  rw [lineCount_listing, List.length_map]
  intro entry hentry
  obtain ⟨copy, hcopy, rfl⟩ := List.mem_map.1 hentry
  exact Code.lineFeed_not_mem_render (h copy hcopy)

/-! ## Programs that were read -/

section Source

variable {source : String} {tokens : List Token} {program : Program}

theorem isLine_of_tokenize (htokens : (Lexer.ofSource source).tokenize = .ok tokens) :
    ∀ token ∈ tokens, IsLine token.lexeme := by
  intro token htoken hfeed
  have hspells := spells_of_tokenize htokens token htoken
  exact absurd (Kind.isWhiteSpace_eq_false_of_mem hspells hfeed) (by decide)

theorem isLine_of_program (htokens : (Lexer.ofSource source).tokenize = .ok tokens)
    (hprogram : (Reader.ofTokens tokens).program = .ok program) :
    ∀ statement ∈ program, IsLine statement.name ∧ IsLine statement.value.lexeme := by
  intro statement hstatement
  have hderivation : Program.Derivation tokens program := Reader.derivation_of_program hprogram
  obtain ⟨htarget, hvalue⟩ := hderivation.mem_tokens statement hstatement
  exact ⟨isLine_of_tokenize htokens _ htarget, isLine_of_tokenize htokens _ hvalue⟩

end Source

end StraightLine
