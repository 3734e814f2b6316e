import StraightLine.Proofs.Program.Grammar
import Mathlib.Data.List.SplitBy

/-!
# Recovery segment by segment

Semicolons cut tokens into segments: each segment ends in its only semicolon, except that the last
one may have none. To recover from errors is to read every segment by itself. A segment gives its
statement or one error, whatever the others hold, and the tokens can only end too early in the last.
-/

namespace StraightLine

/-! ## Segments -/

/-- The tokens cut behind every semicolon. -/
def segments (tokens : List Token) : List (List Token) :=
  tokens.splitBy fun token _ ↦ token.kind ≠ .semicolon

/-- Whether none of some tokens is a semicolon. -/
def Unbroken (tokens : List Token) : Prop :=
  ∀ token ∈ tokens, token.kind ≠ .semicolon

theorem unbroken_nil : Unbroken [] :=
  List.forall_mem_nil _

theorem unbroken_concat {body : List Token} {token : Token} :
    Unbroken (body ++ [token]) ↔ Unbroken body ∧ token.kind ≠ .semicolon := by
  simp [Unbroken, or_imp, forall_and]

theorem segments_append {front rest : List Token}
    (h : ∀ token ∈ front.getLast?, token.kind = .semicolon) :
    segments (front ++ rest) = segments front ++ segments rest := by
  apply List.splitBy_append
  intro token htoken _ _
  simp [h token htoken]

/-- Tokens of which at most the last is a semicolon are one segment. -/
theorem segments_concat {body : List Token} (hbody : Unbroken body) (last : Token) :
    segments (body ++ [last]) = [body ++ [last]] := by
  apply List.splitBy_of_isChain (by simp)
  induction body with
  | nil => simp
  | cons token body ih =>
    obtain ⟨htoken, hbody⟩ := List.forall_mem_cons.1 hbody
    cases body with
    | nil => simpa using htoken
    | cons other body => exact .cons_cons (by simpa using htoken) (ih hbody)

theorem segments_of_unbroken {tokens : List Token} (hne : tokens ≠ []) (h : Unbroken tokens) :
    segments tokens = [tokens] := by
  obtain ⟨body, last, rfl⟩ := (List.eq_nil_or_concat' tokens).resolve_left hne
  exact segments_concat (fun token htoken ↦ h token (List.mem_append_left _ htoken)) last

theorem segments_cons {body : List Token} (hbody : Unbroken body) {semicolon : Token}
    (hsemicolon : semicolon.kind = .semicolon) (rest : List Token) :
    segments (body ++ semicolon :: rest) = (body ++ [semicolon]) :: segments rest := by
  have hlast : ∀ token ∈ (body ++ [semicolon]).getLast?, token.kind = .semicolon := by
    simpa using hsemicolon
  rw [List.append_cons, segments_append hlast, segments_concat hbody, List.singleton_append]

/-- Tokens are a sequence of segments that end in a semicolon, and perhaps one more without any. -/
@[elab_as_elim]
theorem segment_induction {motive : List Token → Prop} (nil : motive [])
    (last : ∀ body, body ≠ [] → Unbroken body → motive body)
    (cons : ∀ body semicolon rest, Unbroken body → semicolon.kind = .semicolon → motive rest →
      motive (body ++ semicolon :: rest)) (tokens : List Token) : motive tokens := by
  -- The tokens of the current segment that have been passed are held apart from those to come.
  have hpassed (rest : List Token) : ∀ body, Unbroken body → motive (body ++ rest) := by
    induction rest with
    | nil =>
      intro body hbody
      rw [List.append_nil]
      by_cases hne : body = []
      · exact hne ▸ nil
      · exact last body hne hbody
    | cons token rest ih =>
      intro body hbody
      by_cases htoken : token.kind = .semicolon
      · exact cons body token rest hbody htoken (ih [] unbroken_nil)
      · rw [List.append_cons]
        exact ih _ (unbroken_concat.2 ⟨hbody, htoken⟩)
  exact hpassed tokens [] unbroken_nil

/-- Only the last segment can lack a semicolon. -/
theorem exists_segments_eq (tokens : List Token) :
    ∃ closed last?, segments tokens = closed ++ Option.toList last? ∧
      (∀ segment ∈ closed, ∃ body semicolon, segment = body ++ [semicolon] ∧ Unbroken body ∧
        semicolon.kind = .semicolon) ∧
      ∀ segment ∈ last?, segment ≠ [] ∧ Unbroken segment := by
  induction tokens using segment_induction with
  | nil => exact ⟨[], none, rfl, by simp, by simp⟩
  | last body hne hbody =>
    refine ⟨[], some body, segments_of_unbroken hne hbody, by simp, ?_⟩
    intro segment hsegment
    cases hsegment
    exact ⟨hne, hbody⟩
  | cons body semicolon rest hbody hsemicolon ih =>
    obtain ⟨closed, last?, hrest, hclosed, hlast⟩ := ih
    refine ⟨(body ++ [semicolon]) :: closed, last?, ?_, ?_, hlast⟩
    · rw [segments_cons hbody hsemicolon, hrest, List.cons_append]
    · exact List.forall_mem_cons.2 ⟨⟨body, semicolon, rfl, hbody, hsemicolon⟩, hclosed⟩

namespace Reader

/-! ## One segment -/

theorem pastSemicolon_append {body : List Token} (h : Unbroken body) (rest : List Token)
    (stop : Position) : pastSemicolon ⟨body ++ rest, stop⟩ = pastSemicolon ⟨rest, stop⟩ := by
  have hbody : ∀ token ∈ body, decide (token.kind ≠ .semicolon) = true := fun token htoken ↦
    decide_eq_true (h token htoken)
  simp only [pastSemicolon, List.dropWhile_append_of_pos hbody]

theorem pastSemicolon_of_unbroken {body : List Token} (h : Unbroken body) (stop : Position) :
    pastSemicolon ⟨body, stop⟩ = ⟨[], stop⟩ := by
  have hpast := pastSemicolon_append h [] stop
  rwa [List.append_nil] at hpast

theorem pastSemicolon_cons {semicolon : Token} (h : semicolon.kind = .semicolon)
    (rest : List Token) (stop : Position) :
    pastSemicolon ⟨semicolon :: rest, stop⟩ = ⟨rest, stop⟩ := by
  simp [pastSemicolon, h]

theorem pastSemicolon_closed {body : List Token} (hbody : Unbroken body) {semicolon : Token}
    (hsemicolon : semicolon.kind = .semicolon) (rest : List Token) (stop : Position) :
    pastSemicolon ⟨body ++ semicolon :: rest, stop⟩ = ⟨rest, stop⟩ := by
  rw [pastSemicolon_append hbody, pastSemicolon_cons hsemicolon]

/-- The tokens of a statement in front of its semicolon. -/
theorem unbroken_of_operand {target sign value : Token} {operand : Operand}
    (htarget : target.kind = .identifier) (hsign : sign.kind = .assign)
    (hoperand : Operand.ofToken? value = some operand) : Unbroken [target, sign, value] :=
  Slot.FilledBefore.kind_ne_semicolon <| Slot.filledBefore_semicolon.2
    ⟨target, sign, value, operand, htarget, hsign, hoperand, rfl⟩

/-- A statement ends with the first semicolon. -/
theorem pastStatement_eq {reader : Reader} {statement : Assignment}
    (h : reader.statement = .ok statement) : reader.pastStatement = reader.pastSemicolon := by
  cases step_iff.2 h with
  | @sound target sign value semicolon rest stop operand htarget hsign hoperand hsemicolon =>
    exact (pastSemicolon_closed (unbroken_of_operand htarget hsign hoperand) hsemicolon
      rest stop).symm

/-- An error is found in front of the first semicolon or at it. -/
theorem pastError_eq {reader : Reader} {e : SlotError} (h : reader.statement = .error e) :
    reader.pastError e = reader.pastSemicolon := by
  cases step_iff.2 h with
  | @faulty slot front rest stop hfront hrest =>
    have hskip : skip ⟨front ++ rest, stop⟩ slot.index = ⟨rest, stop⟩ := by
      rw [skip, ← hfront.length_eq, List.drop_left]
    rw [pastError, hskip, pastSemicolon_append hfront.kind_ne_semicolon]

/-- Tokens without a semicolon at the front of a segment lie within its body. -/
theorem exists_body_eq {front rest body : List Token} {semicolon : Token}
    (hfront : Unbroken front) (hsemicolon : semicolon.kind = .semicolon)
    (h : body ++ [semicolon] = front ++ rest) :
    ∃ middle, body = front ++ middle ∧ rest = middle ++ [semicolon] := by
  rcases List.append_eq_append_iff.1 h with ⟨middle, rfl, hrest⟩ | hinside
  · cases middle with
    | nil => exact ⟨[], by simp, by simpa using hrest.symm⟩
    | cons token middle =>
      obtain ⟨rfl, -⟩ := List.cons.inj hrest
      exact absurd hsemicolon (hfront semicolon (by simp))
  · exact hinside

/-- What stands behind a segment that ends in a semicolon has no part in its statement. -/
theorem statement_closed {body : List Token} (hbody : Unbroken body) {semicolon : Token}
    (hsemicolon : semicolon.kind = .semicolon) (rest : List Token) (stop stop' : Position) :
    statement ⟨body ++ semicolon :: rest, stop⟩ = statement ⟨body ++ [semicolon], stop'⟩ := by
  generalize hresult : statement ⟨body ++ [semicolon], stop'⟩ = result
  generalize htokens : body ++ [semicolon] = tokens at hresult
  cases step_iff.2 hresult with
  | @sound target sign value other later _ operand htarget hsign hoperand hother =>
    obtain ⟨middle, rfl, hmiddle⟩ :=
      exists_body_eq (unbroken_of_operand htarget hsign hoperand) hsemicolon htokens
    cases middle with
    | nil => exact statement_of_filled htarget hsign hoperand hsemicolon rest stop
    | cons token middle =>
      obtain ⟨rfl, -⟩ := List.cons.inj hmiddle
      exact absurd hother (hbody other (by simp))
  | @faulty slot front later _ hfront hlater =>
    obtain ⟨middle, rfl, rfl⟩ := exists_body_eq hfront.kind_ne_semicolon hsemicolon htokens
    have hhead : (middle ++ semicolon :: rest).head? = (middle ++ [semicolon]).head? := by
      cases middle <;> rfl
    have hopen := statement_of_open hfront (hhead ▸ hlater) stop
    rw [List.append_assoc, hopen, hhead]
    cases middle <;> rfl

/-- A segment by itself is read into its statement or its error. -/
theorem program_of_pastSemicolon {reader : Reader} (hne : reader.rest ≠ [])
    (hpast : reader.pastSemicolon.rest = []) :
    reader.program = (reader.statement.map ([·])).mapError SlotError.error := by
  cases hstatement : reader.statement with
  | ok statement =>
    rw [program_of_ok hne hstatement, pastStatement_eq hstatement, program_of_nil hpast]
    rfl
  | error e => exact program_of_error hne hstatement

/-! ## Recovery -/

namespace Recovery

def ofStatement : Except SlotError Assignment → Recovery
  | .ok statement => ⟨[statement], []⟩
  | .error e => ⟨[], [e]⟩

theorem mem_errors_ofStatement {result : Except SlotError Assignment} {e : SlotError} :
    e ∈ (ofStatement result).errors ↔ result = .error e := by
  cases result <;> simp [ofStatement, eq_comm]

/-- Recoveries one after the other. -/
def join (recoveries : List Recovery) : Recovery :=
  ⟨recoveries.flatMap program, recoveries.flatMap errors⟩

instance : Append Recovery where
  append before after := ⟨before.program ++ after.program, before.errors ++ after.errors⟩

@[simp] theorem join_cons (recovery : Recovery) (recoveries : List Recovery) :
    join (recovery :: recoveries) = recovery ++ join recoveries := rfl

theorem join_append (before after : List Recovery) :
    join (before ++ after) = join before ++ join after := by
  simp only [join, List.flatMap_append]
  rfl

end Recovery

/-- A reader recovers behind the next semicolon, whether it has found a statement or an error. -/
theorem recover_eq_append {reader : Reader} (h : reader.rest ≠ []) :
    reader.recover = .ofStatement reader.statement ++ reader.pastSemicolon.recover := by
  cases hstatement : reader.statement with
  | ok statement =>
    rw [recover_of_ok h hstatement, pastStatement_eq hstatement]
    rfl
  | error e =>
    rw [recover_of_error h hstatement, pastError_eq hstatement]
    rfl

theorem recover_eq_join_of_stop (tokens : List Token) (stop : Position) :
    recover ⟨tokens, stop⟩ =
      .join ((segments tokens).map fun segment ↦ .ofStatement (statement ⟨segment, stop⟩)) := by
  induction tokens using segment_induction with
  | nil => exact recover_of_nil rfl
  | last body hne hbody =>
    rw [recover_eq_append hne, pastSemicolon_of_unbroken hbody, recover_of_nil rfl,
      segments_of_unbroken hne hbody]
    rfl
  | cons body semicolon rest hbody hsemicolon ih =>
    rw [recover_eq_append (by simp), pastSemicolon_closed hbody hsemicolon, ih,
      segments_cons hbody hsemicolon, List.map_cons, Recovery.join_cons,
      statement_closed hbody hsemicolon rest stop stop]

theorem stop_ofTokens_append (front : List Token) {rest : List Token} (h : rest ≠ []) :
    (ofTokens (front ++ rest)).stop = (ofTokens rest).stop := by
  obtain ⟨body, last, rfl⟩ := (List.eq_nil_or_concat' rest).resolve_left h
  simp [ofTokens, List.getLast?_append]

/-- The place where all tokens end is asked for in the last segment alone. -/
theorem statement_of_mem_segments {tokens segment : List Token} (h : segment ∈ segments tokens) :
    statement ⟨segment, (ofTokens tokens).stop⟩ = (ofTokens segment).statement := by
  induction tokens using segment_induction with
  | nil => cases h
  | last body hne hbody =>
    rw [segments_of_unbroken hne hbody, List.mem_singleton] at h
    rw [h]
    rfl
  | cons body semicolon rest hbody hsemicolon ih =>
    rw [segments_cons hbody hsemicolon, List.mem_cons] at h
    rcases h with rfl | hrest
    · exact statement_closed hbody hsemicolon [] _ _
    · have hne : rest ≠ [] := by
        rintro rfl
        cases hrest
      rw [List.append_cons, stop_ofTokens_append _ hne, ih hrest]

/-- Recovering from errors reads every segment by itself. -/
theorem recover_eq_join (tokens : List Token) :
    (ofTokens tokens).recover =
      .join ((segments tokens).map fun segment ↦ .ofStatement (ofTokens segment).statement) := by
  have hread := recover_eq_join_of_stop tokens (ofTokens tokens).stop
  rw [List.map_congr_left fun segment h ↦ congrArg _ (statement_of_mem_segments h)] at hread
  exact hread

theorem length_join_ofStatement (results : List (Except SlotError Assignment)) :
    (Recovery.join (results.map .ofStatement)).program.length +
      (Recovery.join (results.map .ofStatement)).errors.length = results.length := by
  induction results with
  | nil => rfl
  | cons result results ih =>
    cases result <;> simp [Recovery.ofStatement, Recovery.join] at ih ⊢ <;> omega

/-- The tokens end too early only where there is no semicolon. -/
theorem unbroken_of_endOfInput {reader : Reader} {slot : Slot} {expected : Expectation}
    {position : Position}
    (h : reader.statement = .error ⟨slot, .endOfInput expected position⟩) :
    Unbroken reader.rest := by
  generalize hresult : Except.error _ = result at h
  cases step_iff.2 h with
  | sound => cases hresult
  | @faulty slot front rest stop hfront hrest =>
    cases rest with
    | nil =>
      rw [List.append_nil]
      exact hfront.kind_ne_semicolon
    | cons token rest => cases slot <;> simp [Expectation.fault, Slot.expectation] at hresult

def fault? (reader : Reader) : Option SyntaxError :=
  match reader.program with
  | .ok _ => none
  | .error e => some e

theorem segment_cases {tokens segment : List Token} (h : segment ∈ segments tokens) :
    (∃ body semicolon, segment = body ++ [semicolon] ∧ Unbroken body ∧
      semicolon.kind = .semicolon) ∨ segment ≠ [] ∧ Unbroken segment := by
  obtain ⟨closed, last?, hsegments, hclosed, hlast⟩ := exists_segments_eq tokens
  rw [hsegments, List.mem_append, Option.mem_toList] at h
  exact h.imp (hclosed segment) (hlast segment)

/-- A segment is a program of one statement, or has an error. -/
theorem program_of_mem_segments {tokens segment : List Token} (h : segment ∈ segments tokens) :
    (ofTokens segment).program =
      ((ofTokens segment).statement.map ([·])).mapError SlotError.error := by
  apply program_of_pastSemicolon (List.ne_nil_of_mem_splitBy h)
  rcases segment_cases h with ⟨body, semicolon, rfl, hbody, hsemicolon⟩ | ⟨-, hbody⟩
  · exact congrArg rest (pastSemicolon_closed hbody hsemicolon [] _)
  · exact congrArg rest (pastSemicolon_of_unbroken hbody _)

theorem program_recover (tokens : List Token) :
    (ofTokens tokens).recover.program =
      (segments tokens).flatMap fun segment ↦ (ofTokens segment).program.toOption.getD [] := by
  rw [recover_eq_join, Recovery.join, List.flatMap_map]
  refine List.flatMap_congr fun segment hsegment ↦ ?_
  rw [program_of_mem_segments hsegment]
  cases (ofTokens segment).statement <;> rfl

theorem errors_recover (tokens : List Token) :
    (ofTokens tokens).recover.errors.map SlotError.error =
      (segments tokens).filterMap fun segment ↦ (ofTokens segment).fault? := by
  rw [recover_eq_join, Recovery.join, List.map_flatMap, List.flatMap_map,
    List.filterMap_eq_flatMap_toList]
  refine List.flatMap_congr fun segment hsegment ↦ ?_
  rw [fault?, program_of_mem_segments hsegment]
  cases (ofTokens segment).statement <;> rfl

/-- A segment gives a statement if its tokens have the kinds of one, and an error otherwise. -/
theorem program_of_segment {tokens segment : List Token} (h : segment ∈ segments tokens) :
    (segment.map Token.kind ∈ statementGrammar.matches' →
      ∃ statement, Program.IsTreeOf [statement] segment ∧
        (ofTokens segment).program = .ok [statement]) ∧
    (segment.map Token.kind ∉ statementGrammar.matches' →
      ∃ e, (ofTokens segment).program = .error e) := by
  rw [map_kind_mem_statementGrammar_iff]
  constructor
  · intro hfilled
    obtain ⟨target, sign, value, semicolon, operand, htarget, hsign, hoperand, hsemicolon, rfl⟩ :=
      Slot.filled_all.1 hfilled
    have hderivation : Program.Derivation [target, sign, value, semicolon] [⟨target, operand⟩] :=
      .cons htarget hsign hoperand hsemicolon .nil
    exact ⟨_, hderivation.isTreeOf, program_of_derivation hderivation _⟩
  · intro hopen
    have hprogram := program_of_mem_segments h
    cases hstatement : (ofTokens segment).statement with
    | error e =>
      rw [hstatement] at hprogram
      exact ⟨e.error, hprogram⟩
    | ok statement =>
      rw [hstatement] at hprogram
      cases derivation_of_program hprogram with
      | cons htarget hsign hoperand hsemicolon hrest =>
        cases hrest
        exact absurd (Slot.filled_all.2
          ⟨_, _, _, _, _, htarget, hsign, hoperand, hsemicolon, rfl⟩) hopen

/-- When the tokens end too early, this is the last error, and that of a segment without semicolon. -/
theorem last_of_endOfInput {tokens : List Token} {index : Nat} {expected : Expectation}
    {position : Position}
    (h : ((ofTokens tokens).recover.errors.map SlotError.error)[index]? =
      some (.endOfInput expected position)) :
    index + 1 = (ofTokens tokens).recover.errors.length ∧
      ∃ segment, (segments tokens).getLast? = some segment ∧ Unbroken segment ∧
        (ofTokens segment).program = .error (.endOfInput expected position) := by
  obtain ⟨closed, last?, hsegments, hclosed, hlast⟩ := exists_segments_eq tokens
  let errors (segment : List Token) := (Recovery.ofStatement (ofTokens segment).statement).errors
  have herrors : (ofTokens tokens).recover.errors =
      closed.flatMap errors ++ last?.toList.flatMap errors := by
    rw [recover_eq_join, hsegments]
    simp [Recovery.join, List.flatMap_map, errors]
  rw [List.getElem?_map, Option.map_eq_some_iff, herrors] at h
  obtain ⟨⟨slot, e⟩, he, rfl⟩ := h
  by_cases hindex : index < (closed.flatMap errors).length
  · -- No error of a segment that ends in a semicolon is about the end of the tokens.
    rw [List.getElem?_append_left hindex] at he
    obtain ⟨segment, hsegment, hmem⟩ := List.mem_flatMap.1 (List.mem_of_getElem? he)
    obtain ⟨body, semicolon, rfl, -, hsemicolon⟩ := hclosed segment hsegment
    have hunbroken := unbroken_of_endOfInput (Recovery.mem_errors_ofStatement.1 hmem)
    exact absurd hsemicolon (hunbroken semicolon (by simp [ofTokens]))
  · rw [List.getElem?_append_right (Nat.le_of_not_lt hindex)] at he
    cases last? with
    | none => simp at he
    | some segment =>
      rw [Option.toList_some] at he herrors hsegments
      rw [List.flatMap_singleton] at he herrors
      have hstatement := Recovery.mem_errors_ofStatement.1 (List.mem_of_getElem? he)
      have hone : errors segment = [⟨slot, .endOfInput expected position⟩] := by
        simp [errors, hstatement, Recovery.ofStatement]
      have hmem : segment ∈ segments tokens := by simp [hsegments]
      refine ⟨?_, segment, by simp [hsegments], (hlast segment rfl).2, ?_⟩
      · rw [hone, List.getElem?_singleton] at he
        rw [herrors, hone, List.length_append, List.length_singleton]
        split at he
        · omega
        · cases he
      · rw [program_of_mem_segments hmem, hstatement]
        rfl

/-- To recover from errors is to read the segments one by one: each gives the statement that it is or
the error that it has by itself. -/
theorem recover_by_segments (tokens : List Token) :
    (ofTokens tokens).recover.program =
      (segments tokens).flatMap (fun segment ↦ (ofTokens segment).program.toOption.getD []) ∧
    (ofTokens tokens).recover.errors.map SlotError.error =
      (segments tokens).filterMap (fun segment ↦ (ofTokens segment).fault?) ∧
    (∀ segment ∈ segments tokens,
      (segment.map Token.kind ∈ statementGrammar.matches' →
        ∃ statement, Program.IsTreeOf [statement] segment ∧
          (ofTokens segment).program = .ok [statement]) ∧
      (segment.map Token.kind ∉ statementGrammar.matches' →
        ∃ e, (ofTokens segment).program = .error e)) ∧
    (ofTokens tokens).recover.program.length + (ofTokens tokens).recover.errors.length =
      (segments tokens).length ∧
    (∀ index expected position,
      ((ofTokens tokens).recover.errors.map SlotError.error)[index]? =
          some (.endOfInput expected position) →
        index + 1 = (ofTokens tokens).recover.errors.length ∧
          ∃ segment, (segments tokens).getLast? = some segment ∧ Unbroken segment ∧
            (ofTokens segment).program = .error (.endOfInput expected position)) ∧
    ∀ before after, tokens = before ++ after →
      (∀ token ∈ before.getLast?, token.kind = .semicolon) →
        (ofTokens tokens).recover = (ofTokens before).recover ++ (ofTokens after).recover := by
  refine ⟨program_recover tokens, errors_recover tokens, fun _ ↦ program_of_segment, ?_,
    fun _ _ _ ↦ last_of_endOfInput, ?_⟩
  · rw [recover_eq_join]
    have hlength := length_join_ofStatement
      ((segments tokens).map fun segment ↦ (ofTokens segment).statement)
    rwa [List.map_map, List.length_map] at hlength
  · intro before after htokens hbefore
    rw [recover_eq_join, recover_eq_join, recover_eq_join, htokens, segments_append hbefore,
      List.map_append, Recovery.join_append]

end Reader

end StraightLine
