import StraightLine.Proofs.Report.Lines

/-!
# The course of a source through the stages

A source that is refused is refused by one of the stages, with an error that only this stage has, and by
every later stage with the same error. The last stage refuses nothing of its own. What a source comes to
at the four stages is therefore settled by at most one error and the stage it belongs to: `Course`.
-/

namespace StraightLine

open Text Token

namespace Stage

def index : Stage → Nat
  | tokens => 0
  | parse => 1
  | check => 2
  | ir => 3

/-- The stages stand in the order in which a source is taken through them. -/
instance : LE Stage := ⟨fun stage later ↦ stage.index ≤ later.index⟩

instance (stage later : Stage) : Decidable (stage ≤ later) :=
  inferInstanceAs (Decidable (stage.index ≤ later.index))

theorem le_trans {stage later last : Stage} (h : stage ≤ later) (hlater : later ≤ last) :
    stage ≤ last :=
  Nat.le_trans h hlater

theorem tokens_le (stage : Stage) : tokens ≤ stage :=
  Nat.zero_le stage.index

/-- The errors with which a stage refuses what the stages before it let pass. -/
inductive Refuses : Stage → RunError → Prop
  | lexical (e : UnknownCharacter) : Refuses tokens (.lexical e)
  | syntactic (e : SyntaxError) : Refuses parse (.syntactic e)
  | semantic {faults : List Undeclared} (hfaults : faults ≠ []) : Refuses check (.semantic faults)

theorem Refuses.le_check {first : Stage} {e : RunError} (h : first.Refuses e) : first ≤ check := by
  cases h <;> decide

end Stage

/-! ## Courses -/

/-- How a source fares at all stages: it is refused from one of them on, or it is never refused. -/
inductive Course (outcome : Stage → Except RunError String) : Prop
  | refused (first : Stage) (e : RunError) (hrefuses : first.Refuses e)
      (herror : ∀ stage, first ≤ stage → outcome stage = .error e)
      (hok : ∀ stage, ¬ first ≤ stage → ∃ text, outcome stage = .ok text)
  | reported (hok : ∀ stage, ∃ text, outcome stage = .ok text)

namespace Course

variable {outcome : Stage → Except RunError String} {stage later : Stage} {e : RunError}

/-- An error belongs to a stage, which refuses the source from there on. -/
theorem exists_refuses (h : Course outcome) (he : outcome stage = .error e) :
    ∃ first ≤ stage, first.Refuses e ∧ ∀ later, first ≤ later → outcome later = .error e := by
  cases h with
  | refused first e' hrefuses herror hok =>
    by_cases hfirst : first ≤ stage
    · obtain rfl : e' = e := Except.error.inj ((herror stage hfirst).symm.trans he)
      exact ⟨first, hfirst, hrefuses, herror⟩
    · obtain ⟨text, htext⟩ := hok stage hfirst
      cases he.symm.trans htext
  | reported hok =>
    obtain ⟨text, htext⟩ := hok stage
    cases he.symm.trans htext

theorem error_of_le (h : Course outcome) (hle : stage ≤ later) (he : outcome stage = .error e) :
    outcome later = .error e := by
  obtain ⟨first, hfirst, -, herror⟩ := h.exists_refuses he
  exact herror later (Stage.le_trans hfirst hle)

theorem ok_of_le (h : Course outcome) (hle : stage ≤ later) {text : String}
    (htext : outcome later = .ok text) : ∃ text, outcome stage = .ok text := by
  cases hstage : outcome stage with
  | ok text => exact ⟨text, rfl⟩
  | error e => cases htext.symm.trans (h.error_of_le hle hstage)

/-- The last stage refuses only what the stage before it has refused. -/
theorem ok_check_iff_ok_ir (h : Course outcome) :
    (∃ text, outcome .check = .ok text) ↔ ∃ text, outcome .ir = .ok text := by
  constructor
  · intro hcheck
    obtain ⟨text, htext⟩ := hcheck
    cases hir : outcome .ir with
    | ok text => exact ⟨text, rfl⟩
    | error e =>
      obtain ⟨first, -, hrefuses, herror⟩ := h.exists_refuses hir
      cases htext.symm.trans (herror .check hrefuses.le_check)
  · intro hir
    obtain ⟨text, htext⟩ := hir
    exact h.ok_of_le (by decide) htext

theorem lexical (h : Course outcome) {e : UnknownCharacter} (he : outcome stage = .error (.lexical e))
    (other : Stage) : outcome other = .error (.lexical e) := by
  obtain ⟨first, -, hrefuses, herror⟩ := h.exists_refuses he
  cases hrefuses
  exact herror other other.tokens_le

theorem ne_tokens_of_syntactic (h : Course outcome) {e : SyntaxError}
    (he : outcome stage = .error (.syntactic e)) : stage ≠ .tokens := by
  obtain ⟨first, hfirst, hrefuses, -⟩ := h.exists_refuses he
  cases hrefuses
  rintro rfl
  exact absurd hfirst (by decide)

theorem semantic (h : Course outcome) {faults : List Undeclared}
    (he : outcome stage = .error (.semantic faults)) :
    (stage = .check ∨ stage = .ir) ∧ faults ≠ [] := by
  obtain ⟨first, hfirst, hrefuses, -⟩ := h.exists_refuses he
  cases hrefuses with
  | semantic hfaults =>
    refine ⟨?_, hfaults⟩
    cases stage with
    | tokens | parse => exact absurd hfirst (by decide)
    | check => exact .inl rfl
    | ir => exact .inr rfl

end Course

/-! ## Reports -/

section Report

variable {source : String} {tokens : List Token} {program : Program} {stage : Stage}

theorem outcome_report_of_lexical {e : UnknownCharacter}
    (h : (Lexer.ofSource source).tokenize = .error e) (stage : Stage) :
    (report stage source).outcome = .error (.lexical e) := by
  rw [outcome_report, h]
  rfl

theorem outcome_report_tokens (htokens : (Lexer.ofSource source).tokenize = .ok tokens) :
    (report .tokens source).outcome = .ok (listing (tokens.map Token.render)) := by
  rw [outcome_report, htokens]
  rfl

theorem outcome_report_of_ne_tokens (htokens : (Lexer.ofSource source).tokenize = .ok tokens)
    (hstage : stage ≠ .tokens) :
    (report stage source).outcome =
      ((Reader.ofTokens tokens).program.mapError .syntactic).bind (outcomeOfProgram stage) := by
  rw [outcome_report, htokens]
  exact if_neg hstage

theorem outcome_report_of_program (htokens : (Lexer.ofSource source).tokenize = .ok tokens)
    (hprogram : (Reader.ofTokens tokens).program = .ok program) (hstage : stage ≠ .tokens) :
    (report stage source).outcome = outcomeOfProgram stage program := by
  rw [outcome_report_of_ne_tokens htokens hstage, hprogram]
  rfl

theorem exists_outcomeOfProgram (hsound : program.resolve.isSound = true) (stage : Stage) :
    ∃ text, outcomeOfProgram stage program = .ok text := by
  by_cases hparse : stage = .parse
  · rw [outcomeOfProgram, if_pos hparse]
    exact ⟨_, rfl⟩
  · rw [outcomeOfProgram, if_neg hparse, if_pos hsound]
    exact ⟨_, rfl⟩

theorem outcomeOfProgram_of_unsound (hsound : ¬ program.resolve.isSound = true)
    (hparse : stage ≠ .parse) :
    outcomeOfProgram stage program = .error (.semantic program.resolve.faults) := by
  rw [outcomeOfProgram, if_neg hparse, if_neg hsound]

/-- No stage refuses a source that is read as a sound program. -/
theorem exists_report_of_sound (htokens : (Lexer.ofSource source).tokenize = .ok tokens)
    (hprogram : (Reader.ofTokens tokens).program = .ok program)
    (hsound : program.resolve.isSound = true) (stage : Stage) :
    ∃ text, (report stage source).outcome = .ok text := by
  by_cases hstage : stage = .tokens
  · rw [hstage, outcome_report_tokens htokens]
    exact ⟨_, rfl⟩
  · rw [outcome_report_of_program htokens hprogram hstage]
    exact exists_outcomeOfProgram hsound stage

/-- What the stages come to depends on where the reading of a source ends. -/
theorem course_report (source : String) : Course fun stage ↦ (report stage source).outcome := by
  cases htokens : (Lexer.ofSource source).tokenize with
  | error e =>
    refine .refused .tokens (.lexical e) (.lexical e) ?_ ?_
    · intro stage _
      exact outcome_report_of_lexical htokens stage
    · intro stage hstage
      exact absurd stage.tokens_le hstage
  | ok tokens =>
    have htext := outcome_report_tokens htokens
    cases hprogram : (Reader.ofTokens tokens).program with
    | error e =>
      refine .refused .parse (.syntactic e) (.syntactic e) ?_ ?_
      · intro stage hstage
        have hlater : stage ≠ .tokens := by
          rintro rfl
          exact absurd hstage (by decide)
        rw [outcome_report_of_ne_tokens htokens hlater, hprogram]
        rfl
      · intro stage hstage
        cases stage with
        | tokens => exact ⟨_, htext⟩
        | parse | check | ir => exact absurd (by decide) hstage
    | ok program =>
      by_cases hsound : program.resolve.isSound = true
      · exact .reported (exists_report_of_sound htokens hprogram hsound)
      · have hfaults : program.resolve.faults ≠ [] := by
          rwa [Resolution.isSound, List.isEmpty_iff] at hsound
        -- a faulty program has been read, so the first two stages report it
        refine .refused .check _ (.semantic hfaults) ?_ ?_
        · intro stage hstage
          have hlater : stage ≠ .tokens ∧ stage ≠ .parse := by
            constructor <;> rintro rfl <;> exact absurd hstage (by decide)
          rw [outcome_report_of_program htokens hprogram hlater.1,
            outcomeOfProgram_of_unsound hsound hlater.2]
        · intro stage hstage
          cases stage with
          | tokens => exact ⟨_, htext⟩
          | parse => exact ⟨_, outcome_report_of_program htokens hprogram (by decide)⟩
          | check | ir => exact absurd (by decide) hstage

end Report

/-- The stages are nested: an error at one is the error at all later ones, and the last two are reached
by the same sources. Each kind of error has the stages at which it arises. A source that reaches the last
stage with a program has four lines of tokens and one tree for each statement, a remark behind the trees,
at most a line for each statement's name, and two lines of code for each statement. -/
theorem stages_are_nested (source : String) :
    (∀ stage later e, stage ≤ later → (report stage source).outcome = .error e →
      (report later source).outcome = .error e) ∧
    (∀ stage later text, stage ≤ later → (report later source).outcome = .ok text →
      ∃ text, (report stage source).outcome = .ok text) ∧
    ((∃ text, (report .check source).outcome = .ok text) ↔
      ∃ text, (report .ir source).outcome = .ok text) ∧
    (∀ stage other e, (report stage source).outcome = .error (.lexical e) →
      (report other source).outcome = .error (.lexical e)) ∧
    (∀ e, (report .tokens source).outcome ≠ .error (.syntactic e)) ∧
    (∀ stage faults, (report stage source).outcome = .error (.semantic faults) →
      (stage = .check ∨ stage = .ir) ∧ faults ≠ []) ∧
    ∀ text, (report .ir source).outcome = .ok text → ∃ tokens program count,
      (Lexer.ofSource source).tokenize = .ok tokens ∧
      (Reader.ofTokens tokens).program = .ok program ∧
      (report .tokens source).outcome.map lineCount = .ok (4 * program.length) ∧
      (report .parse source).outcome.map lineCount = .ok (program.length + 1) ∧
      (report .check source).outcome.map lineCount = .ok count ∧
      1 ≤ count ∧ count ≤ max 1 program.length ∧
      lineCount text = 2 * program.length := by
  have hcourse := course_report source
  refine ⟨?_, ?_, hcourse.ok_check_iff_ok_ir, ?_, ?_, ?_, ?_⟩
  · intro stage later e hle he
    exact hcourse.error_of_le hle he
  · intro stage later text hle htext
    exact hcourse.ok_of_le hle htext
  · intro stage other e he
    exact hcourse.lexical he other
  · intro e he
    exact hcourse.ne_tokens_of_syntactic he rfl
  · intro stage faults he
    exact hcourse.semantic he
  · intro text htext
    obtain ⟨tokens, program, htokens, hprogram, hsound, rfl⟩ := exists_program_of_report htext
    have hlength := (Reader.derivation_of_program hprogram).length_eq
    have hlines := isLine_of_program htokens hprogram
    refine ⟨tokens, program, max 1 program.resolve.symbols.size, htokens, hprogram, ?_, ?_, ?_,
      le_max_left _ _, max_le_max_left 1 program.size_resolve_le, ?_⟩
    · rw [outcome_report_tokens htokens, Except.map, lineCount_tokens]
      exact congrArg Except.ok hlength
    · rw [outcome_report_of_program htokens hprogram (by decide), outcomeOfProgram, if_pos rfl,
        Except.map, lineCount_program hlines]
    · rw [outcome_report_of_program htokens hprogram (by decide), outcomeOfProgram,
        if_neg (by decide), if_pos hsound, if_pos rfl, Except.map, lineCount_symbols]
      intro name hname
      obtain ⟨statement, hstatement, rfl⟩ := List.mem_map.1 (program.names_resolve_subset hname)
      exact (hlines statement hstatement).1
    · rw [lineCount_code (isSpelled_lower htokens hprogram), Program.lower,
        Code.length_ofStatements]

end StraightLine
