import StraightLine.Proofs.Program.Violation
import StraightLine.Proofs.Report.Course
import StraightLine.Proofs.Token.Joint

/-!
# Indented lines

A source that is one line is reported on as it is without the white space at its ends, except that
everything on it stands further to the right by the white space in front: `outcome_report_of_trim_ok`
and `outcome_report_of_trim_error`. Only the columns of a report show this, and only tokens and errors
have columns.
-/

namespace StraightLine

open Text Token

/-! ## Positions further to the right -/

namespace Position

/-- Where a position is when a text is put in front of it on its line. -/
def indent (gap : List Char) (p : Position) : Position where
  offset := p.offset + (String.ofList gap).utf8ByteSize
  line := p.line
  column := p.column + gap.length

@[simp] theorem indent_nil (p : Position) : p.indent [] = p := by
  simp [indent]

theorem indent_eq_advanceOver {gap : List Char} (h : '\n' ∉ gap) (p : Position) :
    p.indent gap = p.advanceOver gap :=
  (advanceOver_of_not_mem h p).symm

theorem movesAlong_indent (gap : List Char) (place : Position) {text : List Char} (h : '\n' ∉ text) :
    MovesAlong (indent gap) place text := by
  intro front hfront
  have hline : '\n' ∉ front := fun hmem ↦ h (hfront.subset hmem)
  rw [advanceOver_of_not_mem hline, advanceOver_of_not_mem hline]
  simp only [indent, mk.injEq, true_and]
  omega

end Position

@[simp] theorem Token.stop_indent (gap : List Char) (token : Token) :
    (token.relocate (.indent gap)).stop = token.stop.indent gap := by
  simp only [Token.relocate, stop, Position.indent, Position.mk.injEq, true_and]
  omega

def RunError.indent (gap : List Char) : RunError → RunError
  | lexical e => lexical (e.relocate (.indent gap))
  | syntactic e => syntactic (e.relocate (.indent gap) (e.position.indent gap))
  | semantic faults => semantic faults

@[simp] theorem Token.relocate_indent_nil (token : Token) : token.relocate (.indent []) = token := by
  simp [Token.relocate]

@[simp] theorem RunError.indent_nil (e : RunError) : e.indent [] = e := by
  cases e with
  | lexical e => simp [indent, UnknownCharacter.relocate]
  | syntactic e => cases e <;> simp [indent, SyntaxError.relocate, SyntaxError.position]
  | semantic faults => rfl

/-! ## Indented tokens -/

section Tokens

variable (gap : List Char) {stage : Stage} {tokens : List Token} {e : RunError}

/-- An error at the end of tokens is placed at the end of the last of them. -/
theorem SyntaxError.relocate_indent {e : SyntaxError} (h : (Reader.ofTokens tokens).program = .error e) :
    e.relocate (.indent gap) (Reader.ofTokens (tokens.map (Token.relocate (.indent gap)))).stop =
      e.relocate (.indent gap) (e.position.indent gap) := by
  rcases Reader.program_ofTokens_error h with ⟨index, token, -, -, rfl⟩ | ⟨-, -, last, hlast, rfl⟩
  · unfold ofViolation
    split <;> rfl
  · have hstop : (Reader.ofTokens (tokens.map (Token.relocate (.indent gap)))).stop =
        last.stop.indent gap := by
      simp [Reader.ofTokens, List.getLast?_map, hlast]
    rw [hstop]
    unfold ofShortage
    split <;> rfl

theorem RunError.relocate_indent (h : outcomeOfReader stage (.ofTokens tokens) = .error e) :
    e.relocate (.indent gap) id (Reader.ofTokens (tokens.map (Token.relocate (.indent gap)))).stop =
      e.indent gap := by
  unfold outcomeOfReader at h
  cases hprogram : (Reader.ofTokens tokens).program with
  | error cause =>
    rw [hprogram] at h
    obtain rfl : .syntactic cause = e := Except.error.inj h
    exact congrArg syntactic (SyntaxError.relocate_indent gap hprogram)
  | ok program =>
    rw [hprogram] at h
    have hlater : outcomeOfProgram stage program = .error e := h
    unfold outcomeOfProgram at hlater
    split_ifs at hlater
    cases hlater
    exact congrArg semantic (List.map_id _)

theorem outcomeOfTokens_indent (hstage : stage ≠ .tokens) (tokens : List Token) :
    outcomeOfTokens stage (tokens.map (Token.relocate (.indent gap))) =
      (outcomeOfTokens stage tokens).mapError (RunError.indent gap) := by
  have hline : ∀ place : Position, (place.indent gap).line = id place.line := fun _ ↦ rfl
  have hmoved := outcomeOfReader_relocate hline
    (Reader.ofTokens (tokens.map (Token.relocate (.indent gap)))).stop stage (.ofTokens tokens)
  rw [outcomeOfTokens, if_neg hstage, outcomeOfTokens, if_neg hstage]
  refine hmoved.trans ?_
  cases hreader : outcomeOfReader stage (.ofTokens tokens) with
  | ok text => rfl
  | error e => exact congrArg Except.error (RunError.relocate_indent gap hreader)

end Tokens

/-! ## Indented lines -/

/-- White space at the ends of a line moves its tokens to the right and does nothing else. -/
theorem tokenize_indent {line trimmed : String} {gap tail : List Char}
    (hline : line.toList = gap ++ (trimmed.toList ++ tail)) (hgap : Blank gap) (htail : Blank tail)
    (hfeed : '\n' ∉ line.toList) :
    (Lexer.ofSource line).tokenize =
      ((Lexer.ofSource trimmed).tokenize.map (List.map (Token.relocate (.indent gap)))).mapError
        (UnknownCharacter.relocate (.indent gap)) := by
  rw [hline, List.mem_append, List.mem_append, not_or, not_or] at hfeed
  obtain ⟨hgapFeed, htrimFeed, -⟩ := hfeed
  have hlike : BeginsLike tail [] := fun c hc ↦ .inl (htail c (List.mem_of_mem_head? hc))
  have hscan : (Cursor.start line).scan grammar =
      ((Cursor.start trimmed).scan grammar).map (Token.relocate (.indent gap))
        (UnknownCharacter.relocate (.indent gap)) := by
    calc
      (Cursor.start line).scan grammar =
          Cursor.scan grammar ⟨.start, gap ++ (trimmed.toList ++ tail)⟩ := by
        rw [Cursor.start, hline]
      _ = Cursor.scan grammar ⟨Position.start.indent gap, trimmed.toList ++ tail⟩ := by
        rw [Cursor.scan_blank_append _ hgap, Position.indent_eq_advanceOver hgapFeed]
      _ = Cursor.scan grammar ⟨Position.start.indent gap, trimmed.toList⟩ := by
        have happend := Cursor.scan_append ⟨Position.start.indent gap, trimmed.toList⟩ hlike
        rwa [Cursor.scan_eq_finished (Cursor.next?_of_blank _ htail),
          Attempt.andThen_finished] at happend
      _ = ((Cursor.start trimmed).scan grammar).map (Token.relocate (.indent gap))
            (UnknownCharacter.relocate (.indent gap)) :=
        Cursor.scan_relocate (.start trimmed) (Position.movesAlong_indent gap _ htrimFeed)
  rw [Lexer.tokenize_ofSource, hscan, Attempt.toExcept_map]
  rfl

section Line

variable {line : String} {gap rest : List Char} (hline : line.toList = gap ++ rest)
  (hgap : Blank gap) (hrest : Stops isWhiteSpace rest) (hfeed : '\n' ∉ line.toList)

include hline hgap hrest hfeed

theorem tokenize_of_trim :
    (Lexer.ofSource line).tokenize =
      ((Lexer.ofSource (trim line)).tokenize.map (List.map (Token.relocate (.indent gap)))).mapError
        (UnknownCharacter.relocate (.indent gap)) := by
  obtain ⟨tail, htail, rfl⟩ := exists_trim_append hline hgap hrest
  exact tokenize_indent hline hgap htail hfeed

/-- What a line comes to, told from the tokens of the trimmed line. -/
theorem outcome_report_of_trim (stage : Stage) :
    (report stage line).outcome =
      ((Lexer.ofSource (trim line)).tokenize.mapError fun e ↦
        RunError.lexical (e.relocate (.indent gap))).bind fun tokens ↦
          outcomeOfTokens stage (tokens.map (Token.relocate (.indent gap))) := by
  rw [outcome_report, tokenize_of_trim hline hgap hrest hfeed]
  cases (Lexer.ofSource (trim line)).tokenize <;> rfl

/-- An error of the trimmed line is the error of the line, further to the right. -/
theorem outcome_report_of_trim_error {stage : Stage} {e : RunError}
    (h : (report stage (trim line)).outcome = .error e) :
    (report stage line).outcome = .error (e.indent gap) := by
  rw [outcome_report_of_trim hline hgap hrest hfeed]
  rw [outcome_report] at h
  cases htokens : (Lexer.ofSource (trim line)).tokenize with
  | error cause =>
    rw [htokens] at h
    obtain rfl : .lexical cause = e := Except.error.inj h
    rfl
  | ok tokens =>
    rw [htokens] at h
    have hlater : outcomeOfTokens stage tokens = .error e := h
    have hstage : stage ≠ .tokens := by
      rintro rfl
      cases hlater
    calc
      outcomeOfTokens stage (tokens.map (Token.relocate (.indent gap))) =
          (outcomeOfTokens stage tokens).mapError (RunError.indent gap) :=
        outcomeOfTokens_indent gap hstage tokens
      _ = .error (e.indent gap) := by rw [hlater]; rfl

/-- A report on the trimmed line is the report on the line, up to the columns of its tokens. -/
theorem outcome_report_of_trim_ok {stage : Stage} {text : String}
    (h : (report stage (trim line)).outcome = .ok text) :
    ∃ tokens, (Lexer.ofSource (trim line)).tokenize = .ok tokens ∧
      (stage = .tokens → text = listing (tokens.map Token.render)) ∧
      (report stage line).outcome = .ok (if stage = .tokens then
        listing (tokens.map fun token ↦ (token.relocate (.indent gap)).render) else text) := by
  rw [outcome_report] at h
  obtain ⟨tokens, htokens, htext⟩ := bind_mapError_eq_ok_iff.1 h
  refine ⟨tokens, htokens, ?_, ?_⟩
  · rintro rfl
    exact (Except.ok.inj htext).symm
  · rw [outcome_report_of_trim hline hgap hrest hfeed, htokens, Except.mapError, Except.bind]
    by_cases hstage : stage = .tokens
    · rw [outcomeOfTokens, if_pos hstage, if_pos hstage, List.map_map]
      rfl
    · rw [outcomeOfTokens_indent gap hstage, htext, if_neg hstage]
      rfl

end Line

end StraightLine
