import StraightLine.Proofs.Program.Grammar

/-!
# The earliest violation of the grammar

Where a reader meets an error, the tokens in front of it are whole statements and then fill the first
slots of one more (`StandsAt`). Such tokens can always be completed to a program, and a token that does
not fit the next slot is one that no program has there. The error of a reader is therefore about the
earliest token that cannot belong to a program, or about the end of tokens that stop within a statement:
`program_reports_earliest_violation`.
-/

namespace StraightLine

/-! ## Tokens that can be completed -/

/-- Whether some tokens are the front of those of a program, as far as their kinds go. -/
def Viable (tokens : List Token) : Prop :=
  ∃ later, tokens.map Token.kind ++ later ∈ programGrammar.matches'

theorem Viable.of_prefix {front tokens : List Token} (h : Viable tokens) (hfront : front <+: tokens) :
    Viable front := by
  obtain ⟨rest, rfl⟩ := hfront
  obtain ⟨later, hlater⟩ := h
  refine ⟨rest.map Token.kind ++ later, ?_⟩
  rwa [← List.append_assoc, ← List.map_append]

theorem Viable.of_derivation {tokens : List Token} {program : Program}
    (h : Program.Derivation tokens program) : Viable tokens := by
  refine ⟨[], ?_⟩
  rw [List.append_nil]
  exact Program.exists_derivation_iff.1 ⟨program, h⟩

/-- A viable sequence of tokens is the front of tokens that make up a program. -/
theorem Viable.exists_derivation {tokens : List Token} (h : Viable tokens) :
    ∃ others program, Program.Derivation (tokens ++ others) program := by
  obtain ⟨later, hlater⟩ := h
  refine ⟨later.map fun kind ↦ ⟨kind, "", .start⟩, Program.exists_derivation_iff.2 ?_⟩
  simpa [Function.comp_def] using hlater

namespace Slot

theorem exists_kinds (slots : List Slot) :
    ∃ kinds, List.Forall₂ (fun slot kind ↦ kind ∈ Slot.kinds slot) slots kinds := by
  induction slots with
  | nil => exact ⟨[], .nil⟩
  | cons slot slots ih =>
    obtain ⟨kinds, hkinds⟩ := ih
    obtain ⟨kind, hkind⟩ : ∃ kind, kind ∈ slot.kinds := by
      cases slot <;> exact ⟨_, List.mem_cons_self⟩
    exact ⟨kind :: kinds, .cons hkind hkinds⟩

/-- The slots of a statement can be filled from any of them on. -/
theorem FilledBefore.exists_mem_statementGrammar {slot : Slot} {tokens : List Token}
    (h : slot.FilledBefore tokens) :
    ∃ later, tokens.map Token.kind ++ later ∈ statementGrammar.matches' := by
  obtain ⟨later, hlater⟩ := exists_kinds (all.drop slot.index)
  refine ⟨later, mem_statementGrammar_iff.2 ?_⟩
  have hfilled : List.Forall₂ (fun slot kind ↦ kind ∈ Slot.kinds slot) (all.take slot.index)
      (tokens.map Token.kind) := List.forall₂_map_right_iff.2 h
  rw [← List.take_append_drop slot.index all]
  exact List.rel_append hfilled hlater

end Slot

theorem mem_programGrammar_append {front rest : List Token.Kind}
    (hfront : front ∈ programGrammar.matches') (hrest : rest ∈ programGrammar.matches') :
    front ++ rest ∈ programGrammar.matches' := by
  have hboth : front ++ rest ∈ programGrammar.matches' * programGrammar.matches' :=
    Language.append_mem_mul hfront hrest
  rwa [programGrammar, RegularExpression.matches'_star, kstar_mul_kstar] at hboth

namespace Reader

/-! ## Where reading stops -/

/-- Whole statements are read before anything that follows them. -/
theorem statements_append {front : List Token} {program : Program}
    (h : Program.Derivation front program) (rest : List Token) (stop : Position) :
    statements ⟨front ++ rest, stop⟩ =
      ⟨program ++ (statements ⟨rest, stop⟩).items, (statements ⟨rest, stop⟩).failure?⟩ := by
  induction h with
  | nil => rfl
  | @cons target sign value semicolon operand front program htarget hsign hoperand hsemicolon hfront
      ih =>
    have hstatement := statement_of_filled htarget hsign hoperand hsemicolon (front ++ rest) stop
    have hpast : pastStatement ⟨target :: sign :: value :: semicolon :: (front ++ rest), stop⟩ =
        ⟨front ++ rest, stop⟩ := rfl
    simp only [List.cons_append]
    rw [statements_of_ok (by simp) hstatement, hpast, ih]
    rfl

/-- A reader stops behind whole statements where the next one has an error. -/
theorem exists_fault {reader : Reader} {e : SlotError} (h : reader.statements.failure? = some e) :
    ∃ front rest, reader.rest = front ++ rest ∧
      Program.Derivation front reader.statements.items ∧ rest ≠ [] ∧
      statement ⟨rest, reader.stop⟩ = .error e := by
  fun_induction statements reader with
  | case1 => cases h
  | case2 reader hrest hshorter statement hstatement ih =>
    obtain ⟨front, rest, hlater, hfront, hne, hfault⟩ := ih h
    cases step_iff.2 hstatement with
    | @sound target sign value semicolon later stop operand htarget hsign hoperand hsemicolon =>
      refine ⟨target :: sign :: value :: semicolon :: front, rest, ?_, ?_, hne, hfault⟩
      · exact congrArg (target :: sign :: value :: semicolon :: ·) hlater
      · exact .cons htarget hsign hoperand hsemicolon hfront
  | case3 reader hrest hshorter e' hstatement =>
    cases h
    exact ⟨[], reader.rest, rfl, .nil, hrest, hstatement⟩

/-- The statements in front of an error are those that the tokens up to it make up. -/
theorem statements_eq_fault_iff {tokens : List Token} {stop : Position} {program : Program}
    {e : SlotError} :
    statements ⟨tokens, stop⟩ = ⟨program, some e⟩ ↔
      ∃ front rest, tokens = front ++ rest ∧ Program.Derivation front program ∧ rest ≠ [] ∧
        statement ⟨rest, stop⟩ = .error e := by
  constructor
  · intro h
    have hfault := exists_fault (congrArg Attempt.failure? h)
    rwa [h] at hfault
  · intro h
    obtain ⟨front, rest, rfl, hfront, hne, hfault⟩ := h
    rw [statements_append hfront, statements_of_error hne hfault]
    exact congrArg (Attempt.mk · _) (List.append_nil program)

theorem program_eq_ok_iff {reader : Reader} {program : Program} :
    reader.program = .ok program ↔ reader.statements.toExcept = .ok program := by
  rw [Reader.program]
  cases reader.statements.toExcept <;> simp [Except.mapError]

theorem program_eq_error_iff {reader : Reader} {e : SyntaxError} :
    reader.program = .error e ↔ ∃ slot, reader.statements.failure? = some ⟨slot, e⟩ := by
  rw [program]
  generalize reader.statements = attempt
  obtain ⟨items, failure?⟩ := attempt
  cases failure? with
  | none => simp [Attempt.toExcept, Except.mapError]
  | some fault =>
    obtain ⟨slot, error⟩ := fault
    simp [Attempt.toExcept, Except.mapError]

/-- Whether some tokens are whole statements and then fill the slots of another one in front of a given
slot. -/
def StandsAt (slot : Slot) (tokens : List Token) : Prop :=
  ∃ front filled program, tokens = front ++ filled ∧ Program.Derivation front program ∧
    slot.FilledBefore filled

theorem StandsAt.length_mod {slot : Slot} {tokens : List Token} (h : StandsAt slot tokens) :
    tokens.length % 4 = slot.index := by
  obtain ⟨front, filled, program, rfl, hfront, hfilled⟩ := h
  rw [List.length_append, hfront.length_eq, hfilled.length_eq, Nat.mul_add_mod]
  cases slot <;> rfl

theorem StandsAt.viable {slot : Slot} {tokens : List Token} (h : StandsAt slot tokens) :
    Viable tokens := by
  obtain ⟨front, filled, program, rfl, hfront, hfilled⟩ := h
  obtain ⟨later, hlater⟩ := hfilled.exists_mem_statementGrammar
  have hstatement : filled.map Token.kind ++ later ∈ programGrammar.matches' := by
    simpa using append_mem_programGrammar hlater (Language.nil_mem_kstar _)
  refine ⟨later, ?_⟩
  rw [List.map_append, List.append_assoc]
  exact mem_programGrammar_append (Program.exists_derivation_iff.1 ⟨program, hfront⟩) hstatement

/-- Reading stops at an open slot. -/
theorem StandsAt.program_append {slot : Slot} {tokens rest : List Token} (h : StandsAt slot tokens)
    (hrest : ∀ token ∈ rest.head?, ¬ slot.Admits token) (hne : slot = .target → rest ≠ [])
    (stop : Position) :
    program ⟨tokens ++ rest, stop⟩ = .error (slot.expectation.fault stop rest.head?) := by
  obtain ⟨front, filled, program, rfl, hfront, hfilled⟩ := h
  have hopen : filled ++ rest ≠ [] := by
    intro hnil
    obtain ⟨rfl, rfl⟩ := List.append_eq_nil_iff.1 hnil
    refine hne ?_ rfl
    have hindex := hfilled.length_eq
    cases slot <;> simp_all [Slot.index]
  have hstatements := statements_eq_fault_iff.2
    ⟨front, filled ++ rest, List.append_assoc .., hfront, hopen, statement_of_open hfilled hrest stop⟩
  exact program_eq_error_iff.2 ⟨slot, congrArg Attempt.failure? hstatements⟩

/-- A token that does not fit the next slot cannot belong to a program. -/
theorem StandsAt.not_viable {slot : Slot} {tokens : List Token} {token : Token}
    (h : StandsAt slot tokens) (htoken : ¬ slot.Admits token) : ¬ Viable (tokens ++ [token]) := by
  intro hviable
  obtain ⟨others, program, hprogram⟩ := hviable.exists_derivation
  rw [List.append_assoc, List.singleton_append] at hprogram
  have hrest : ∀ found ∈ (token :: others).head?, ¬ slot.Admits found := by
    simpa using htoken
  have herror := h.program_append hrest (fun _ ↦ List.cons_ne_nil token others) .start
  cases (program_of_derivation hprogram .start).symm.trans herror

/-- Where a reader meets an error, it stands at a slot that its next token does not fit. -/
theorem exists_standsAt {tokens : List Token} {stop : Position} {e : SyntaxError}
    (h : program ⟨tokens, stop⟩ = .error e) :
    ∃ slot front rest, tokens = front ++ rest ∧ StandsAt slot front ∧
      (∀ token ∈ rest.head?, ¬ slot.Admits token) ∧ (slot = .target → rest ≠ []) ∧
      e = slot.expectation.fault stop rest.head? := by
  obtain ⟨slot, hfault⟩ := program_eq_error_iff.1 h
  obtain ⟨front, later, rfl, hfront, hlater, hstatement⟩ := exists_fault hfault
  cases step_iff.2 hstatement with
  | @faulty slot filled rest stop hfilled hrest =>
    refine ⟨slot, front ++ filled, rest, (List.append_assoc ..).symm,
      ⟨front, filled, _, rfl, hfront, hfilled⟩, hrest, ?_, rfl⟩
    rintro rfl rfl
    obtain rfl := Slot.filledBefore_target.1 hfilled
    exact hlater rfl

end Reader

/-! ## The error of a reader -/

/-- Whether the token at an index is the last of the shortest prefix that no program begins with. -/
def IsViolation (tokens : List Token) (index : ℕ) : Prop :=
  ¬ Viable (tokens.take (index + 1)) ∧ ∀ length ≤ index, Viable (tokens.take length)

theorem IsViolation.unique {tokens : List Token} {index other : ℕ} (h : IsViolation tokens index)
    (hother : IsViolation tokens other) : index = other := by
  rcases Nat.lt_trichotomy index other with hlt | heq | hgt
  · exact absurd (hother.2 _ hlt) h.1
  · exact heq
  · exact absurd (h.2 _ hgt) hother.1

theorem Reader.StandsAt.isViolation {slot : Slot} {front : List Token} {token : Token}
    (h : StandsAt slot front) (htoken : ¬ slot.Admits token) (others : List Token) :
    IsViolation (front ++ token :: others) front.length := by
  refine ⟨?_, fun length hlength ↦ ?_⟩
  · have htake : (front ++ token :: others).take (front.length + 1) = front ++ [token] := by
      simp [List.take_append]
    rw [htake]
    exact h.not_viable htoken
  · rw [List.take_append_of_le_length hlength]
    exact h.viable.of_prefix (List.take_prefix length front)

namespace SyntaxError

def ofViolation (index : ℕ) (found : Token) : SyntaxError :=
  match index % 4 with
  | 0 => .otherKind .identifier found
  | 1 => .otherKind .assign found
  | 2 => .noOperand found
  | _ => .otherKind .semicolon found

def ofShortage (count : ℕ) (stop : Position) : SyntaxError :=
  match count % 4 with
  | 1 => .endOfInput (.token .assign) stop
  | 2 => .endOfInput .operand stop
  | _ => .endOfInput (.token .semicolon) stop

theorem fault_some {slot : Slot} {index : ℕ} (h : index % 4 = slot.index) (stop : Position)
    (found : Token) : slot.expectation.fault stop (some found) = ofViolation index found := by
  rw [ofViolation, h]
  cases slot <;> rfl

theorem fault_none {slot : Slot} {count : ℕ} (h : count % 4 = slot.index) (hslot : slot ≠ .target)
    (stop : Position) : slot.expectation.fault stop none = ofShortage count stop := by
  rw [ofShortage, h]
  cases slot with
  | target => exact absurd rfl hslot
  | assign | value | semicolon => rfl

end SyntaxError

namespace Reader

/-- What the error of a reader is about. -/
theorem program_ofTokens_error {tokens : List Token} {e : SyntaxError}
    (h : (ofTokens tokens).program = .error e) :
    (∃ index token, tokens[index]? = some token ∧ IsViolation tokens index ∧
      e = .ofViolation index token) ∨
    ((∀ length, Viable (tokens.take length)) ∧ tokens.length % 4 ≠ 0 ∧
      ∃ last, tokens.getLast? = some last ∧ e = .ofShortage tokens.length last.stop) := by
  obtain ⟨slot, front, rest, htokens, hfront, hrest, hslot, rfl⟩ := exists_standsAt h
  cases rest with
  | cons token others =>
    subst htokens
    have htoken : ¬ slot.Admits token := hrest token rfl
    refine .inl ⟨front.length, token, by simp, hfront.isViolation htoken others, ?_⟩
    exact SyntaxError.fault_some hfront.length_mod _ token
  | nil =>
    rw [List.append_nil] at htokens
    subst htokens
    have hopen : slot ≠ .target := fun htarget ↦ hslot htarget rfl
    have hmod : tokens.length % 4 ≠ 0 := by
      rw [hfront.length_mod]
      cases slot <;> simp_all [Slot.index]
    have hne : tokens ≠ [] := by
      rintro rfl
      exact hmod rfl
    refine .inr ⟨fun length ↦ hfront.viable.of_prefix (List.take_prefix length tokens), hmod,
      tokens.getLast hne, List.getLast?_eq_some_getLast hne, ?_⟩
    rw [List.getLast?_eq_some_getLast hne]
    exact SyntaxError.fault_none hfront.length_mod hopen _

/-- A reader reports the first token that no program has in its place after the tokens in front of it,
or that the tokens end within a statement. -/
theorem program_reports_earliest_violation (tokens : List Token) (e : SyntaxError) :
    (ofTokens tokens).program = .error e ↔
      (∃ index token, tokens[index]? = some token ∧ IsViolation tokens index ∧
        e = .ofViolation index token) ∨
      ((∀ length, Viable (tokens.take length)) ∧ tokens.length % 4 ≠ 0 ∧
        ∃ last, tokens.getLast? = some last ∧ e = .ofShortage tokens.length last.stop) := by
  constructor
  · exact program_ofTokens_error
  · intro h
    cases hprogram : (ofTokens tokens).program with
    | ok program =>
      have hderivation : Program.Derivation tokens program := derivation_of_program hprogram
      rcases h with ⟨index, token, htoken, hviolation, rfl⟩ | ⟨hviable, hmod, hlast⟩
      · have hviable : Viable tokens := .of_derivation hderivation
        exact absurd (hviable.of_prefix (List.take_prefix _ tokens)) hviolation.1
      · have hlength := hderivation.length_eq
        omega
    | error e' =>
      refine congrArg Except.error ?_
      rcases program_ofTokens_error hprogram, h with
        ⟨⟨index, token, htoken, hviolation, rfl⟩ | ⟨hviable, hmod, last, hlast, rfl⟩,
          ⟨other, found, hfound, hother, rfl⟩ | ⟨hviable', hmod', last', hlast', rfl⟩⟩
      · obtain rfl := hviolation.unique hother
        rw [Option.some.inj (htoken.symm.trans hfound)]
      · exact absurd (hviable' _) hviolation.1
      · exact absurd (hviable _) hother.1
      · rw [Option.some.inj (hlast.symm.trans hlast')]

end Reader

end StraightLine
