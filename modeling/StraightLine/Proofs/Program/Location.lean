import StraightLine.Proofs.Program.Recovery
import StraightLine.Proofs.Token.Order

/-!
# Where errors point

Each error that recovery finds is about a token, or about the place where all tokens end. Taken together
these follow one another as the tokens do and the end comes last (`found_sublist`), so that what is known
of the places of tokens in a source is known of the places of errors.
-/

namespace StraightLine

open Token Text

/-- Whether a position is the true one, in a source, of the text of a token that stands there, or else of
the end of all that is no white space. -/
def IsPlaceOf (source : String) (found? : Option Token) (position : Position) : Prop :=
  ∃ before behind, source.toList = before ++ behind ∧ position = .ofText before ∧
    match found? with
    | some found => found.lexeme ≠ "" ∧ found.lexeme.toList <+: behind
    | none => (∃ c ∈ before.getLast?, isWhiteSpace c = false) ∧ Blank behind

namespace SyntaxError

/-- The token that an error is about, unless it is about the end of the tokens. -/
def found? : SyntaxError → Option Token
  | endOfInput _ _ => none
  | otherKind _ found => some found
  | noOperand found => some found

/-- Whether an error has its true place in a source. -/
def PointsInto (source : String) (e : SyntaxError) : Prop :=
  IsPlaceOf source e.found? e.position

end SyntaxError

namespace Expectation

@[simp] theorem found?_fault (expected : Expectation) (stop : Position) (found? : Option Token) :
    (expected.fault stop found?).found? = found? := by
  cases found? <;> cases expected <;> rfl

@[simp] theorem position_fault (expected : Expectation) (stop : Position) (found? : Option Token) :
    (expected.fault stop found?).position = (found?.map Token.position).getD stop := by
  cases found? <;> cases expected <;> rfl

end Expectation

namespace Reader

def place (reader : Reader) (found? : Option Token) : Position :=
  (found?.map Token.position).getD reader.stop

/-! ## What errors are about -/

/-- The error of a statement is about the token that follows its filled slots, or about the end. -/
theorem exists_front_of_error {reader : Reader} {e : SlotError} (h : reader.statement = .error e) :
    ∃ front rest, reader.rest = front ++ rest ∧ Unbroken front ∧ e.error.found? = rest.head? ∧
      e.error.position = reader.place rest.head? := by
  cases step_iff.2 h with
  | @faulty slot front rest stop hfront hrest =>
    exact ⟨front, rest, rfl, hfront.kind_ne_semicolon, Expectation.found?_fault _ _ _,
      Expectation.position_fault _ _ _⟩

theorem position_of_mem_recover {reader : Reader} {e : SlotError} (h : e ∈ reader.recover.errors) :
    e.error.position = reader.place e.error.found? := by
  obtain ⟨tokens, stop⟩ := reader
  rw [recover_eq_join_of_stop] at h
  simp only [Recovery.join, List.flatMap_map] at h
  obtain ⟨segment, -, hsegment⟩ := List.mem_flatMap.1 h
  obtain ⟨front, rest, -, -, hfound, hposition⟩ :=
    exists_front_of_error (Recovery.mem_errors_ofStatement.1 hsegment)
  rw [hposition, hfound]
  rfl

/-- The error of a segment that ends in a semicolon is about one of its tokens. -/
theorem found_mem_closed {body : List Token} (hbody : Unbroken body) {semicolon : Token}
    (hsemicolon : semicolon.kind = .semicolon) {stop : Position} {e : SlotError}
    (h : statement ⟨body ++ [semicolon], stop⟩ = .error e) :
    e.error.found? ∈ (body ++ [semicolon]).map some := by
  obtain ⟨front, rest, htokens, hfront, hfound, -⟩ := exists_front_of_error h
  obtain ⟨middle, rfl, rfl⟩ := exists_body_eq hfront hsemicolon htokens
  rw [hfound]
  cases middle <;> simp

theorem found_mem_or_end {body : List Token} {stop : Position} {e : SlotError}
    (h : statement ⟨body, stop⟩ = .error e) : e.error.found? ∈ body.map some ++ [none] := by
  obtain ⟨front, rest, rfl, -, hfound, -⟩ := exists_front_of_error h
  rw [hfound]
  cases rest <;> simp

/-- A statement adds one error at most. -/
theorem found_sublist_ofStatement {result : Except SlotError Assignment}
    {places : List (Option Token)} (h : ∀ e, result = .error e → e.error.found? ∈ places) :
    ((Recovery.ofStatement result).errors.map (·.error.found?)).Sublist places := by
  cases result with
  | ok statement => exact List.nil_sublist places
  | error e => exact List.singleton_sublist.2 (h e rfl)

/-- The errors are about different tokens in their order, and the last of them perhaps about the end. -/
theorem found_sublist (tokens : List Token) (stop : Position) :
    ((recover ⟨tokens, stop⟩).errors.map (·.error.found?)).Sublist (tokens.map some ++ [none]) := by
  induction tokens using segment_induction with
  | nil =>
    rw [recover_of_nil rfl]
    exact List.nil_sublist _
  | last body hne hbody =>
    have hrecover : (recover ⟨body, stop⟩).errors =
        (Recovery.ofStatement (statement ⟨body, stop⟩)).errors := by
      rw [recover_eq_append hne, pastSemicolon_of_unbroken hbody, recover_of_nil rfl]
      exact List.append_nil _
    rw [hrecover]
    exact found_sublist_ofStatement fun e ↦ found_mem_or_end
  | cons body semicolon rest hbody hsemicolon ih =>
    have hrecover : (recover ⟨body ++ semicolon :: rest, stop⟩).errors =
        (Recovery.ofStatement (statement ⟨body ++ [semicolon], stop⟩)).errors ++
          (recover ⟨rest, stop⟩).errors := by
      rw [recover_eq_append (by simp), pastSemicolon_closed hbody hsemicolon,
        statement_closed hbody hsemicolon rest stop stop]
      rfl
    -- The end of the tokens is left to what follows the semicolon.
    have hfirst : ∀ e, statement ⟨body ++ [semicolon], stop⟩ = .error e →
        e.error.found? ∈ (body ++ [semicolon]).map some := fun e ↦
      found_mem_closed hbody hsemicolon
    have hfound := (found_sublist_ofStatement hfirst).append ih
    rwa [← List.map_append, ← hrecover, ← List.append_assoc, ← List.map_append,
      ← List.append_cons] at hfound

/-! ## The places of tokens and of their end -/

variable {source : String} {tokens : List Token}

theorem offset_stop_le (h : tokens.Pairwise (fun token later ↦ token.stop ≤ later.position))
    {token : Token} (htoken : token ∈ tokens) :
    token.stop.offset ≤ (ofTokens tokens).stop.offset := by
  obtain ⟨body, last, rfl⟩ := (List.eq_nil_or_concat' tokens).resolve_left (List.ne_nil_of_mem htoken)
  have hstop : (ofTokens (body ++ [last])).stop = last.stop := stop_ofTokens_append body (by simp)
  rw [hstop]
  rcases List.mem_append.1 htoken with hbody | hlast
  · have hbefore := (List.pairwise_append.1 h).2.2 token hbody last List.mem_cons_self
    exact (Position.le_def.1 hbefore).1.trans (Nat.le_add_right _ _)
  · rw [List.mem_singleton.1 hlast]

/-- In a source the tokens stand in front of each other, and all of them in front of their end. -/
theorem pairwise_offset_place (h : (Lexer.ofSource source).tokenize = .ok tokens) :
    (tokens.map some ++ [none]).Pairwise (fun found? later? ↦
      ((ofTokens tokens).place found?).offset < ((ofTokens tokens).place later?).offset) := by
  obtain ⟨-, hitems⟩ := Attempt.toExcept_eq_ok_iff.1 h
  have horder : tokens.Pairwise (fun token later ↦ token.stop ≤ later.position) :=
    hitems ▸ (Cursor.scan_in_order (.start source)).2.1
  have hspan : ∀ token ∈ tokens, token.position.offset < token.stop.offset := by
    intro token htoken
    obtain ⟨index, hindex, rfl⟩ := List.getElem_of_mem htoken
    obtain ⟨before, behind, -, hstands, -⟩ := exists_split_of_tokenize h hindex
    exact hstands.offset_lt
  refine List.pairwise_append.2 ⟨?_, List.pairwise_singleton _ _, ?_⟩
  · refine List.pairwise_map.2 (horder.imp_of_mem ?_)
    intro token later htoken _ hbefore
    exact (hspan token htoken).trans_le (Position.le_def.1 hbefore).1
  · intro found? hfound later? hlater
    obtain ⟨token, htoken, rfl⟩ := List.mem_map.1 hfound
    obtain rfl := List.mem_singleton.1 hlater
    exact (hspan token htoken).trans_le (offset_stop_le horder htoken)

/-- The tokens of a source and their end have their true places. -/
theorem isPlaceOf_place (h : (Lexer.ofSource source).tokenize = .ok tokens) (hne : tokens ≠ [])
    {found? : Option Token} (hfound : found? ∈ tokens.map some ++ [none]) :
    IsPlaceOf source found? ((ofTokens tokens).place found?) := by
  rcases List.mem_append.1 hfound with htoken | hend
  · obtain ⟨token, hmem, rfl⟩ := List.mem_map.1 htoken
    obtain ⟨index, hindex, rfl⟩ := List.getElem_of_mem hmem
    obtain ⟨before, behind, hsource, hstands, -⟩ := exists_split_of_tokenize h hindex
    exact ⟨before, tokens[index].lexeme.toList ++ behind, by rw [hsource, List.append_assoc],
      hstands.place, hstands.nonempty, List.prefix_append _ _⟩
  · obtain rfl := List.mem_singleton.1 hend
    obtain ⟨body, last, rfl⟩ := (List.eq_nil_or_concat' tokens).resolve_left hne
    have hindex : body.length < (body ++ [last]).length := by simp
    obtain ⟨before, behind, hsource, hstands, hblank⟩ := exists_split_of_tokenize h hindex
    rw [List.getElem_concat_length rfl] at hsource hstands
    have hstop : (ofTokens (body ++ [last])).stop = last.stop := stop_ofTokens_append body (by simp)
    exact ⟨before ++ last.lexeme.toList, behind, hsource, hstop.trans hstands.stop_eq,
      hstands.exists_getLast?, hblank (by simp)⟩

theorem pointsInto_of_mem_recover (h : (Lexer.ofSource source).tokenize = .ok tokens) {e : SlotError}
    (he : e ∈ (ofTokens tokens).recover.errors) : e.error.PointsInto source := by
  have hne : tokens ≠ [] := by
    rintro rfl
    rw [recover_of_nil rfl] at he
    cases he
  have hfound : e.error.found? ∈ tokens.map some ++ [none] :=
    (found_sublist tokens (ofTokens tokens).stop).mem (List.mem_map.2 ⟨e, he, rfl⟩)
  rw [SyntaxError.PointsInto, position_of_mem_recover he]
  exact isPlaceOf_place h hne hfound

/-- The errors of a source that falls into tokens have their true places in it, one behind the other. -/
theorem errors_point_into_source (h : (Lexer.ofSource source).tokenize = .ok tokens) :
    (∀ e ∈ (ofTokens tokens).recover.errors, e.error.PointsInto source) ∧
    (∀ e, (ofTokens tokens).program = .error e → e.PointsInto source) ∧
    ((ofTokens tokens).recover.errors.map (·.error.position.offset)).Pairwise (· < ·) := by
  refine ⟨fun e he ↦ pointsInto_of_mem_recover h he, ?_, ?_⟩
  · intro e he
    obtain ⟨fault, hfault, rfl⟩ := Option.map_eq_some_iff.1 (program_eq_error_iff_recover.1 he)
    exact pointsInto_of_mem_recover h (List.mem_of_head? hfault)
  · have hplaces := (pairwise_offset_place h).sublist (found_sublist tokens (ofTokens tokens).stop)
    refine List.pairwise_map.2 ((List.pairwise_map.1 hplaces).imp_of_mem ?_)
    intro e later he hlater hbefore
    rwa [position_of_mem_recover he, position_of_mem_recover hlater]

/-- The second of two statements ends too early, and is followed by white space on two lines. -/
theorem errors_point_into_two_lines :
    ∃ tokens, (Lexer.ofSource "x 5;\n y =\u3000\n").tokenize = .ok tokens ∧
      (ofTokens tokens).recover.errors =
        [⟨.assign, .otherKind .assign ⟨.number, "5", ⟨2, 1, 3⟩⟩⟩,
          ⟨.value, .endOfInput .operand ⟨9, 2, 5⟩⟩] ∧
      (SyntaxError.otherKind .assign ⟨.number, "5", ⟨2, 1, 3⟩⟩).PointsInto "x 5;\n y =\u3000\n" ∧
      (SyntaxError.endOfInput .operand ⟨9, 2, 5⟩).PointsInto "x 5;\n y =\u3000\n" ∧
      ([2, 9] : List ℕ).Pairwise (· < ·) := by
  have htokens : (Lexer.ofSource "x 5;\n y =\u3000\n").tokenize =
      .ok [⟨.identifier, "x", ⟨0, 1, 1⟩⟩, ⟨.number, "5", ⟨2, 1, 3⟩⟩, ⟨.semicolon, ";", ⟨3, 1, 4⟩⟩,
        ⟨.identifier, "y", ⟨6, 2, 2⟩⟩, ⟨.assign, "=", ⟨8, 2, 4⟩⟩] := by decide +kernel
  have hrecover : (ofTokens [⟨.identifier, "x", ⟨0, 1, 1⟩⟩, ⟨.number, "5", ⟨2, 1, 3⟩⟩,
      ⟨.semicolon, ";", ⟨3, 1, 4⟩⟩, ⟨.identifier, "y", ⟨6, 2, 2⟩⟩, ⟨.assign, "=", ⟨8, 2, 4⟩⟩]).recover =
        ⟨[], [⟨.assign, .otherKind .assign ⟨.number, "5", ⟨2, 1, 3⟩⟩⟩,
          ⟨.value, .endOfInput .operand ⟨9, 2, 5⟩⟩]⟩ := by decide +kernel
  obtain ⟨hpoints, -, hoffsets⟩ := errors_point_into_source htokens
  rw [hrecover] at hpoints hoffsets
  exact ⟨_, htokens, congrArg Recovery.errors hrecover, hpoints _ (List.mem_cons_self),
    hpoints _ (List.mem_cons_of_mem _ List.mem_cons_self), hoffsets⟩

end Reader

end StraightLine
