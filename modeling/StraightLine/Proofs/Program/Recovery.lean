import StraightLine.Proofs.Program.Segment
import StraightLine.Proofs.Program.Violation

/-!
# Recovery behind the first error

A reader that recovers from errors does what one that stops at the first error does until it gets
there: it finds the same statements (`recover_append`) and then the same error (`recover_of_fault`). What
it finds after that stands behind the semicolon of the faulty statement and is what a reader of the
tokens from there on finds (`recover_behind`).
-/

namespace StraightLine

/-- The tokens up to the first semicolon are a segment: a statement is read in it alone, and recovery
goes on behind it. -/
theorem exists_first_segment {tokens : List Token} (h : tokens ≠ []) (stop : Position) :
    ∃ segment later, tokens = segment ++ later ∧ segments tokens = segment :: segments later ∧
      Reader.statement ⟨tokens, stop⟩ = Reader.statement ⟨segment, stop⟩ ∧
      Reader.pastSemicolon ⟨tokens, stop⟩ = ⟨later, stop⟩ := by
  induction tokens using segment_induction with
  | nil => exact absurd rfl h
  | last body hne hbody =>
    exact ⟨body, [], (List.append_nil body).symm, segments_of_unbroken hne hbody, rfl,
      Reader.pastSemicolon_of_unbroken hbody stop⟩
  | cons body semicolon rest hbody hsemicolon ih =>
    exact ⟨body ++ [semicolon], rest, List.append_cons .., segments_cons hbody hsemicolon rest,
      Reader.statement_closed hbody hsemicolon rest stop stop,
      Reader.pastSemicolon_closed hbody hsemicolon rest stop⟩

namespace Reader

/-! ## A reader among the tokens -/

theorem mk_stop_ofTokens (front : List Token) {rest : List Token} (h : rest ≠ []) :
    Reader.mk rest (ofTokens (front ++ rest)).stop = ofTokens rest := by
  rw [stop_ofTokens_append front h]
  rfl

/-- What stands in front of a reader has no part in the program that it reads. -/
theorem program_behind (front rest : List Token) :
    program ⟨rest, (ofTokens (front ++ rest)).stop⟩ = (ofTokens rest).program := by
  by_cases h : rest = []
  · rw [program_of_nil h, program_of_nil h]
  · rw [mk_stop_ofTokens front h]

/-- What stands in front of a reader has no part in what it recovers. -/
theorem recover_behind (front rest : List Token) :
    recover ⟨rest, (ofTokens (front ++ rest)).stop⟩ = (ofTokens rest).recover := by
  by_cases h : rest = []
  · rw [recover_of_nil h, recover_of_nil h]
  · rw [mk_stop_ofTokens front h]

/-! ## Recovery in step with reading -/

/-- Whole statements are recovered before anything that follows them. -/
theorem recover_append {front : List Token} {program : Program}
    (h : Program.Derivation front program) (rest : List Token) (stop : Position) :
    recover ⟨front ++ rest, stop⟩ = ⟨program, []⟩ ++ recover ⟨rest, stop⟩ := by
  induction h with
  | nil => rfl
  | @cons target sign value semicolon operand front program htarget hsign hoperand hsemicolon hfront
      ih =>
    have hstatement := statement_of_filled htarget hsign hoperand hsemicolon (front ++ rest) stop
    have hpast : pastStatement ⟨target :: sign :: value :: semicolon :: (front ++ rest), stop⟩ =
        ⟨front ++ rest, stop⟩ := rfl
    simp only [List.cons_append]
    rw [recover_of_ok (by simp) hstatement, hpast, ih]
    rfl

/-- A program is recovered without errors. -/
theorem recover_of_program {reader : Reader} {program : Program} (h : reader.program = .ok program) :
    reader.recover = ⟨program, []⟩ := by
  obtain ⟨tokens, stop⟩ := reader
  have hderivation : Program.Derivation tokens program := derivation_of_program h
  have hnil : recover ⟨[], stop⟩ = ⟨[], []⟩ := recover_of_nil rfl
  have hrecover := recover_append hderivation [] stop
  rw [List.append_nil, hnil] at hrecover
  exact hrecover.trans (congrArg (Recovery.mk · []) (List.append_nil program))

/-- The first error is recovered behind the statements in front of it, and then what follows. -/
theorem recover_of_fault {reader : Reader} {program : Program} {e : SlotError}
    (h : reader.statements = ⟨program, some e⟩) :
    ∃ front failing later, reader.rest = front ++ (failing ++ later) ∧
      Program.Derivation front program ∧
      segments (failing ++ later) = failing :: segments later ∧
      statement ⟨failing, reader.stop⟩ = .error e ∧
      reader.recover = ⟨program, [e]⟩ ++ recover ⟨later, reader.stop⟩ := by
  obtain ⟨tokens, stop⟩ := reader
  obtain ⟨front, rest, rfl, hfront, hne, hfault⟩ := statements_eq_fault_iff.1 h
  obtain ⟨failing, later, rfl, hsegments, hfailing, hpast⟩ := exists_first_segment hne stop
  refine ⟨front, failing, later, rfl, hfront, hsegments, hfailing.symm.trans hfault, ?_⟩
  rw [recover_append hfront, recover_eq_append hne, hfault, hpast]
  rfl

/-- Where reading stops is the first error of all, if there is any. -/
theorem head?_errors_recover (reader : Reader) :
    reader.recover.errors.head? = reader.statements.failure? := by
  cases hfailure : reader.statements.failure? with
  | none =>
    have hprogram : reader.program = .ok reader.statements.items :=
      program_eq_ok_iff.2 (Attempt.toExcept_eq_ok_iff.2 ⟨hfailure, rfl⟩)
    rw [recover_of_program hprogram]
    rfl
  | some e =>
    have hstatements : reader.statements = ⟨reader.statements.items, some e⟩ := by
      rw [← hfailure]
    obtain ⟨front, failing, later, -, -, -, -, hrecover⟩ := recover_of_fault hstatements
    rw [hrecover]
    rfl

/-- A program is read where it is recovered without errors. -/
theorem program_eq_ok_iff_recover {reader : Reader} {program : Program} :
    reader.program = .ok program ↔ reader.recover = ⟨program, []⟩ := by
  constructor
  · exact recover_of_program
  · intro h
    have hfailure : reader.statements.failure? = none := by
      rw [← head?_errors_recover, h]
      rfl
    have hread : reader.program = .ok reader.statements.items :=
      program_eq_ok_iff.2 (Attempt.toExcept_eq_ok_iff.2 ⟨hfailure, rfl⟩)
    have hitems : reader.statements.items = program :=
      congrArg Recovery.program ((recover_of_program hread).symm.trans h)
    rw [hread, hitems]

/-- An error is what reading stops at where it is the first to be recovered from. -/
theorem program_eq_error_iff_recover {reader : Reader} {e : SyntaxError} :
    reader.program = .error e ↔ reader.recover.errors.head?.map SlotError.error = some e := by
  rw [program_eq_error_iff, head?_errors_recover, Option.map_eq_some_iff]
  constructor
  · intro h
    obtain ⟨slot, hslot⟩ := h
    exact ⟨⟨slot, e⟩, hslot, rfl⟩
  · intro h
    obtain ⟨⟨slot, e⟩, hslot, rfl⟩ := h
    exact ⟨slot, hslot⟩

/-- A recovered statement is that of a segment. -/
theorem exists_segment_of_mem_recover {tokens : List Token} {statement : Assignment}
    (h : statement ∈ (ofTokens tokens).recover.program) :
    ∃ segment ∈ segments tokens, Program.Derivation segment [statement] := by
  rw [program_recover] at h
  obtain ⟨segment, hsegment, hstatement⟩ := List.mem_flatMap.1 h
  refine ⟨segment, hsegment, ?_⟩
  cases hread : (ofTokens segment).statement with
  | error e =>
    rw [program_of_mem_segments hsegment, hread] at hstatement
    cases hstatement
  | ok other =>
    have hprogram : (ofTokens segment).program = .ok [other] := by
      rw [program_of_mem_segments hsegment, hread]
      rfl
    rw [hprogram] at hstatement
    obtain rfl := List.mem_singleton.1 hstatement
    exact derivation_of_program hprogram

/-- Recovering from errors finds a program without errors where there is one, and otherwise goes on
where reading stops: behind the statements in front of the first error and this error comes what there is
in the segments behind the faulty one. -/
theorem recover_extends_program (tokens : List Token) :
    (∀ program, (ofTokens tokens).program = .ok program ↔
      (ofTokens tokens).recover = ⟨program, []⟩) ∧
    (∀ e, (ofTokens tokens).program = .error e ↔
      (ofTokens tokens).recover.errors.head?.map SlotError.error = some e) ∧
    ∀ e, (ofTokens tokens).program = .error e →
      ∃ front failing later slot,
        tokens = front ++ (failing ++ later) ∧
        Program.Derivation front (ofTokens tokens).statements.items ∧
        segments (failing ++ later) = failing :: segments later ∧
        (ofTokens failing).program = .error e ∧
        (ofTokens tokens).recover =
          ⟨(ofTokens tokens).statements.items, [⟨slot, e⟩]⟩ ++ (ofTokens later).recover ∧
        ∀ statement ∈ (ofTokens later).recover.program,
          ∃ segment ∈ segments later, Program.Derivation segment [statement] := by
  refine ⟨fun program ↦ program_eq_ok_iff_recover, fun e ↦ program_eq_error_iff_recover, ?_⟩
  intro e he
  obtain ⟨slot, hfailure⟩ := program_eq_error_iff.1 he
  have hstatements : (ofTokens tokens).statements =
      ⟨(ofTokens tokens).statements.items, some ⟨slot, e⟩⟩ := by rw [← hfailure]
  obtain ⟨front, failing, later, htokens, hfront, hsegments, hfailing, hrecover⟩ :=
    recover_of_fault hstatements
  have hmem : failing ∈ segments (failing ++ later) := by simp [hsegments]
  refine ⟨front, failing, later, slot, htokens, hfront, hsegments, ?_, ?_,
    fun statement ↦ exists_segment_of_mem_recover⟩
  · have hne : failing ++ later ≠ [] :=
      List.append_ne_nil_of_left_ne_nil (List.ne_nil_of_mem_splitBy hmem) later
    have hstop : (ofTokens tokens).stop = (ofTokens (failing ++ later)).stop := by
      rw [← stop_ofTokens_append front hne, ← htokens]
      rfl
    rw [hstop, statement_of_mem_segments hmem] at hfailing
    rw [program_of_mem_segments hmem, hfailing]
    rfl
  · have hlater := recover_behind (front ++ failing) later
    rw [List.append_assoc, ← htokens] at hlater
    rw [hrecover]
    exact congrArg (_ ++ ·) hlater

end Reader

end StraightLine
