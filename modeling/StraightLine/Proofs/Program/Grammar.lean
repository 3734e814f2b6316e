import StraightLine.Proofs.Program.Statement
import Mathlib.Computability.RegularExpressions

/-!
# The grammar of programs

As far as their kinds go, the tokens of programs are a regular language: statements of four tokens,
one after the other. A `Derivation` says which program some tokens make up, statement by statement;
a program is a tree of its tokens if each of its statements holds the first and the third of four.
`program_iff_grammar` says that a reader accepts exactly the tokens of the grammar and finds the one
tree that they have.
-/

namespace StraightLine

/-- The kinds of the tokens of a statement: name, assignment sign, number or name, semicolon. -/
def statementGrammar : RegularExpression Token.Kind :=
  .char .identifier * .char .assign * (.char .number + .char .identifier) * .char .semicolon

def programGrammar : RegularExpression Token.Kind :=
  .star statementGrammar

open RegularExpression in
theorem mem_statementGrammar_iff {kinds : List Token.Kind} :
    kinds ∈ statementGrammar.matches' ↔
      List.Forall₂ (fun slot kind ↦ kind ∈ Slot.kinds slot) Slot.all kinds := by
  rw [← rmatch_iff_matches']
  simp only [statementGrammar, mul_rmatch_iff, add_rmatch_iff, char_rmatch_iff, Slot.all,
    Slot.kinds, List.forall₂_cons_left_iff, List.forall₂_nil_left_iff, List.mem_cons,
    List.not_mem_nil, or_false]
  constructor
  · rintro ⟨_, _, rfl, ⟨_, _, rfl, ⟨_, _, rfl, rfl, rfl⟩, hvalue⟩, rfl⟩
    rcases hvalue with rfl | rfl <;> simp
  · rintro ⟨_, _, rfl, ⟨_, _, rfl, ⟨value, _, hvalue, ⟨_, _, rfl, rfl, rfl⟩, rfl⟩, rfl⟩, rfl⟩
    refine ⟨[.identifier, .assign, value], _, rfl, ⟨[.identifier, .assign], _, rfl, ?_, ?_⟩, rfl⟩
    · exact ⟨_, _, rfl, rfl, rfl⟩
    · simpa using hvalue

/-- Tokens have the kinds of a statement if they fill its slots. -/
theorem map_kind_mem_statementGrammar_iff {tokens : List Token} :
    tokens.map Token.kind ∈ statementGrammar.matches' ↔
      List.Forall₂ Slot.Admits Slot.all tokens := by
  rw [mem_statementGrammar_iff, List.forall₂_map_right_iff]
  rfl

theorem append_mem_programGrammar {front rest : List Token.Kind}
    (hfront : front ∈ statementGrammar.matches') (hrest : rest ∈ programGrammar.matches') :
    front ++ rest ∈ programGrammar.matches' := by
  obtain ⟨pieces, rfl, hpieces⟩ := Language.mem_kstar.1 hrest
  exact Language.mem_kstar.2 ⟨front :: pieces, rfl, List.forall_mem_cons.2 ⟨hfront, hpieces⟩⟩

namespace Program

/-! ## Derivations and trees -/

/-- Which program some tokens make up. -/
inductive Derivation : List Token → Program → Prop
  | nil : Derivation [] []
  | cons {target sign value semicolon : Token} {operand : Operand} {rest : List Token}
      {program : Program} (htarget : target.kind = .identifier) (hsign : sign.kind = .assign)
      (hoperand : Operand.ofToken? value = some operand) (hsemicolon : semicolon.kind = .semicolon)
      (hrest : Derivation rest program) :
      Derivation (target :: sign :: value :: semicolon :: rest) (⟨target, operand⟩ :: program)

/-- Tokens make up a program if their kinds are those of the grammar. -/
theorem exists_derivation_iff {tokens : List Token} :
    (∃ program, Derivation tokens program) ↔ tokens.map Token.kind ∈ programGrammar.matches' := by
  constructor
  · intro h
    obtain ⟨program, h⟩ := h
    induction h with
    | nil => exact Language.nil_mem_kstar _
    | @cons target sign value semicolon operand rest program htarget hsign hoperand hsemicolon hrest
        ih =>
      have hfilled : List.Forall₂ Slot.Admits Slot.all [target, sign, value, semicolon] :=
        Slot.filled_all.2
          ⟨target, sign, value, semicolon, operand, htarget, hsign, hoperand, hsemicolon, rfl⟩
      exact append_mem_programGrammar (map_kind_mem_statementGrammar_iff.2 hfilled) ih
  · intro h
    obtain ⟨pieces, hkinds, hpieces⟩ := Language.mem_kstar.1 h
    -- Each piece is a statement, so that the tokens can be cut where the pieces end.
    induction pieces generalizing tokens with
    | nil =>
      obtain rfl := List.map_eq_nil_iff.1 hkinds
      exact ⟨[], .nil⟩
    | cons piece pieces ih =>
      obtain ⟨hpiece, hlater⟩ := List.forall_mem_cons.1 hpieces
      obtain ⟨front, rest, rfl, rfl, hrest⟩ := List.map_eq_append_iff.1 hkinds
      obtain ⟨program, hprogram⟩ := ih (Language.mem_kstar.2 ⟨pieces, hrest, hlater⟩) hrest hlater
      obtain ⟨target, sign, value, semicolon, operand, htarget, hsign, hoperand, hsemicolon, rfl⟩ :=
        Slot.filled_all.1 (map_kind_mem_statementGrammar_iff.1 hpiece)
      exact ⟨_, .cons htarget hsign hoperand hsemicolon hprogram⟩

/-- Whether a program has a statement for every four tokens, with the first of them as its target and
the third as its value. -/
structure IsTreeOf (program : Program) (tokens : List Token) : Prop where
  length : program.length = tokens.length / 4
  target : ∀ index (h : index < program.length),
    tokens[4 * index]? = some program[index].target
  value : ∀ index (h : index < program.length), ∃ token, tokens[4 * index + 2]? = some token ∧
    (token.kind = .number ∧ program[index].value = .number token ∨
      token.kind = .identifier ∧ program[index].value = .identifier token)

theorem IsTreeOf.unique {program other : Program} {tokens : List Token}
    (h : program.IsTreeOf tokens) (hother : other.IsTreeOf tokens) : program = other := by
  apply List.ext_getElem (h.length.trans hother.length.symm)
  intro index hindex hindex'
  have htarget : program[index].target = other[index].target :=
    Option.some.inj ((h.target index hindex).symm.trans (hother.target index hindex'))
  obtain ⟨token, htoken, hvalue⟩ := h.value index hindex
  obtain ⟨token', htoken', hvalue'⟩ := hother.value index hindex'
  obtain rfl := Option.some.inj (htoken.symm.trans htoken')
  have hoperand : program[index].value = other[index].value :=
    Option.some.inj ((Operand.ofToken?_eq_some_iff.2 hvalue).symm.trans
      (Operand.ofToken?_eq_some_iff.2 hvalue'))
  calc
    program[index] = ⟨program[index].target, program[index].value⟩ := rfl
    _ = ⟨other[index].target, other[index].value⟩ := by rw [htarget, hoperand]
    _ = other[index] := rfl

theorem Derivation.isTreeOf {tokens : List Token} {program : Program}
    (h : Derivation tokens program) : program.IsTreeOf tokens := by
  induction h with
  | nil => exact ⟨rfl, by simp, by simp⟩
  | @cons target sign value semicolon operand rest program htarget hsign hoperand hsemicolon hrest
      ih =>
    refine ⟨?_, ?_, ?_⟩
    · have hlength := ih.length
      simp only [List.length_cons]
      omega
    · intro index hindex
      cases index with
      | zero => rfl
      | succ index => exact ih.target index (by simpa using hindex)
    · intro index hindex
      cases index with
      | zero => exact ⟨value, rfl, Operand.ofToken?_eq_some_iff.1 hoperand⟩
      | succ index => exact ih.value index (by simpa using hindex)

/-- A statement takes four tokens. -/
theorem Derivation.length_eq {tokens : List Token} {program : Program}
    (h : Derivation tokens program) : tokens.length = 4 * program.length := by
  induction h with
  | nil => rfl
  | cons htarget hsign hoperand hsemicolon hrest ih =>
    simp only [List.length_cons]
    omega

theorem Derivation.mem_tokens {tokens : List Token} {program : Program}
    (h : Derivation tokens program) :
    ∀ statement ∈ program, statement.target ∈ tokens ∧ statement.value.token ∈ tokens := by
  induction h with
  | nil => exact List.forall_mem_nil _
  | @cons target sign value semicolon operand rest program htarget hsign hoperand hsemicolon hrest
      ih =>
    refine List.forall_mem_cons.2 ⟨?_, fun statement hstatement ↦ ?_⟩
    · simp [Operand.token_of_ofToken? hoperand]
    · obtain ⟨hlater, hvalue⟩ := ih statement hstatement
      simp [hlater, hvalue]

end Program

/-! ## Reading programs -/

namespace Reader

theorem program_of_nil {reader : Reader} (h : reader.rest = []) : reader.program = .ok [] := by
  rw [program, statements_of_nil h]
  rfl

theorem program_of_ok {reader : Reader} {statement : Assignment} (h : reader.rest ≠ [])
    (hstatement : reader.statement = .ok statement) :
    reader.program = reader.pastStatement.program.map (statement :: ·) := by
  rw [program, program, statements_of_ok h hstatement]
  obtain ⟨items, failure?⟩ := reader.pastStatement.statements
  cases failure? <;> rfl

theorem program_of_error {reader : Reader} {e : SlotError} (h : reader.rest ≠ [])
    (hstatement : reader.statement = .error e) : reader.program = .error e.error := by
  rw [program, statements_of_error h hstatement]
  rfl

theorem derivation_of_program {reader : Reader} {program : Program}
    (h : reader.program = .ok program) : Program.Derivation reader.rest program := by
  induction reader using statements.induct generalizing program with
  | case1 reader hrest =>
    rw [program_of_nil hrest] at h
    cases h
    rw [hrest]
    exact .nil
  | case2 reader hrest hshorter statement hstatement ih =>
    rw [program_of_ok hrest hstatement] at h
    cases hlater : reader.pastStatement.program with
    | error e =>
      rw [hlater] at h
      cases h
    | ok later =>
      rw [hlater] at h
      cases h
      have hderivation := ih hlater
      cases step_iff.2 hstatement with
      | sound htarget hsign hoperand hsemicolon =>
        exact .cons htarget hsign hoperand hsemicolon hderivation
  | case3 reader hrest hshorter e hstatement =>
    rw [program_of_error hrest hstatement] at h
    cases h

theorem program_of_derivation {tokens : List Token} {program : Program}
    (h : Program.Derivation tokens program) (stop : Position) :
    Reader.program ⟨tokens, stop⟩ = .ok program := by
  induction h with
  | nil => exact program_of_nil rfl
  | @cons target sign value semicolon operand rest program htarget hsign hoperand hsemicolon hrest
      ih =>
    have hstatement := statement_of_filled htarget hsign hoperand hsemicolon rest stop
    rw [program_of_ok (by simp) hstatement]
    exact congrArg (Except.map _) ih

/-- A reader accepts exactly the tokens of the grammar, and finds the only program that is a tree of
them. -/
theorem program_iff_grammar (tokens : List Token) :
    ((∃ program, (ofTokens tokens).program = .ok program) ↔
      tokens.map Token.kind ∈ programGrammar.matches') ∧
    ∀ program, (ofTokens tokens).program = .ok program ↔
      tokens.map Token.kind ∈ programGrammar.matches' ∧ program.IsTreeOf tokens := by
  have hread (program : Program) :
      (ofTokens tokens).program = .ok program ↔ Program.Derivation tokens program :=
    ⟨derivation_of_program, fun h ↦ program_of_derivation h _⟩
  simp only [hread, ← Program.exists_derivation_iff, true_and]
  intro program
  constructor
  · intro h
    exact ⟨⟨program, h⟩, h.isTreeOf⟩
  · intro h
    obtain ⟨⟨other, hother⟩, htree⟩ := h
    rwa [htree.unique hother.isTreeOf]

end Reader

end StraightLine
