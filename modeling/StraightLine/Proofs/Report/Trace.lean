import StraightLine.Proofs.Program.Violation
import StraightLine.Proofs.Report.Course
import StraightLine.Proofs.Text.Form

/-!
# The trace of a run

A run takes a source through the stages up to the chosen one. What each of them logs depends on the
source alone: `Logs` lists the ways in which a stage can go, with the entries that are logged as they are
written. The trace of a run is a first entry and then those of its stages, one after the other, so that
the traces of a source grow with the stage. As each event belongs to a stage, the trace shows which stage
failed.
-/

namespace StraightLine

open Token

theorem Resolution.isSound_iff {resolution : Resolution} :
    resolution.isSound = true ↔ resolution.faults = [] :=
  List.isEmpty_iff

/-! ## Entries -/

/-- An event as it is written. -/
structure Entry where
  level : String
  message : String
  fields : List (String × String)
deriving DecidableEq

namespace Entry

def scannedToken (token : Token) : Entry :=
  ⟨"TRACE", "scanned token", [("token", token.render)]⟩

def lexedSource (count : ℕ) : Entry :=
  ⟨"DEBUG", "lexed source", [("count", count.repr)]⟩

def parsedStatement (statement : Assignment) : Entry :=
  ⟨"TRACE", "parsed statement", [("statement", statement.render)]⟩

def parsedProgram (statements : ℕ) : Entry :=
  ⟨"DEBUG", "parsed program", [("statements", statements.repr)]⟩

def resolvedProgram (symbols faults : ℕ) : Entry :=
  ⟨"DEBUG", "analyzed program", [("symbols", symbols.repr), ("diagnostics", faults.repr)]⟩

def loweredProgram (count : ℕ) : Entry :=
  ⟨"DEBUG", "generated intermediate code", [("count", count.repr)]⟩

end Entry

def Event.entry (event : Event) : Entry :=
  ⟨event.level.name, event.message, event.fields⟩

theorem Event.message_eq_lexedSource_iff {event : Event} :
    event.message = "lexed source" ↔ ∃ count, event = .lexedSource count := by
  cases event <;> simp [message]

theorem Event.message_eq_parsedProgram_iff {event : Event} :
    event.message = "parsed program" ↔ ∃ statements, event = .parsedProgram statements := by
  cases event <;> simp [message]

theorem Event.entry_eq_resolvedProgram_iff {event : Event} {symbols faults : ℕ} :
    event.entry = .resolvedProgram symbols faults ↔ event = .resolvedProgram symbols faults := by
  have hrepr : ∀ {m n : ℕ}, m.repr = n.repr ↔ m = n := by
    intro m n
    refine ⟨fun h ↦ ?_, congrArg Nat.repr⟩
    apply Option.some_inj.1
    rw [← Text.number?_repr m, h, Text.number?_repr]
  cases event <;> simp [entry, Entry.resolvedProgram, message, fields, level, Level.name, hrepr]

def Run.entries {ε α : Type} (run : Run ε α) : List Entry :=
  run.events.map Event.entry

/-- An entry is found by its message if one kind of event has that message. -/
theorem Run.exists_message_iff {ε α : Type} {run : Run ε α} {kind : ℕ → Event} {message : String}
    (h : ∀ event : Event, event.message = message ↔ ∃ count, event = kind count) :
    (∃ entry ∈ run.entries, entry.message = message) ↔ ∃ count, kind count ∈ run.events := by
  constructor
  · rintro ⟨entry, hentry, hmessage⟩
    obtain ⟨event, hevent, rfl⟩ := List.mem_map.1 hentry
    obtain ⟨count, rfl⟩ := (h event).1 hmessage
    exact ⟨count, hevent⟩
  · rintro ⟨count, hevent⟩
    exact ⟨_, List.mem_map_of_mem hevent, (h _).2 ⟨count, rfl⟩⟩

/-! ## Stages in order -/

namespace Stage

/-- The stages that lead up to a stage, and that stage itself. -/
def upTo (stage : Stage) : List Stage :=
  all.take (stage.index + 1)

theorem mem_upTo {stage other : Stage} : other ∈ stage.upTo ↔ other ≤ stage := by
  cases stage <;> cases other <;> decide

theorem parse_le_iff {stage : Stage} : parse ≤ stage ↔ stage ≠ tokens := by
  cases stage <;> decide

theorem check_le_iff {stage : Stage} : check ≤ stage ↔ stage ≠ tokens ∧ stage ≠ parse := by
  cases stage <;> decide

theorem upTo_prefix {stage later : Stage} (h : stage ≤ later) : stage.upTo <+: later.upTo :=
  List.take_prefix_take_left (Nat.succ_le_succ h)

end Stage

/-! ## What the stages log -/

namespace Run

variable {ε α β : Type}

/-- The events of what comes after something that must succeed first. -/
def onSuccess (outcome : Except ε α) (events : α → List Event) : List Event :=
  match outcome with
  | .ok a => events a
  | .error _ => []

@[simp] theorem onSuccess_ok (a : α) (events : α → List Event) :
    onSuccess (.ok a : Except ε α) events = events a := rfl

@[simp] theorem onSuccess_error (e : ε) (events : α → List Event) :
    onSuccess (.error e) events = [] := rfl

@[simp] theorem onSuccess_mapError {ε' : Type} (f : ε → ε') (outcome : Except ε α)
    (events : α → List Event) : onSuccess (outcome.mapError f) events = onSuccess outcome events := by
  cases outcome <;> rfl

@[simp] theorem onSuccess_ite {p : Prop} [Decidable p] (a : α) (e : ε) (events : α → List Event) :
    onSuccess (if p then .ok a else .error e) events = if p then events a else [] := by
  split <;> rfl

@[simp] theorem onSuccess_nil (outcome : Except ε α) : (onSuccess outcome fun _ ↦ []) = [] := by
  cases outcome <;> rfl

@[simp] theorem onSuccess_append (outcome : Except ε α) (events later : α → List Event) :
    (onSuccess outcome fun a ↦ events a ++ later a) =
      onSuccess outcome events ++ onSuccess outcome later := by
  cases outcome <;> rfl

theorem mem_onSuccess {outcome : Except ε α} {events : α → List Event} {event : Event} :
    event ∈ onSuccess outcome events ↔ ∃ a, outcome = .ok a ∧ event ∈ events a := by
  cases outcome <;> simp [onSuccess]

@[simp] theorem events_pure (a : α) : (pure a : Run ε α).events = [] := rfl

@[simp] theorem events_log (event : Event) : (log event : Run ε Unit).events = [event] := rfl

theorem events_bind (run : Run ε α) (next : α → Run ε β) :
    (run >>= next).events = run.events ++ onSuccess run.outcome fun a ↦ (next a).events := by
  obtain ⟨events, outcome⟩ := run
  cases outcome with
  | ok a => rfl
  | error e => exact (List.append_nil events).symm

variable {each : α → Event} {all : ℕ → Event} {blame : ε → RunError} {attempt : Attempt α ε}

theorem events_ofAttempt_of_ok {items : List α} (h : attempt.toExcept = .ok items) :
    (ofAttempt each all blame attempt).events = items.map each ++ [all items.length] := by
  obtain ⟨hnone, rfl⟩ := Attempt.toExcept_eq_ok_iff.1 h
  rw [ofAttempt, hnone]
  rfl

theorem events_ofAttempt_of_fault {items : List α} {e : ε} (h : attempt = ⟨items, some e⟩) :
    (ofAttempt each all blame attempt).events = items.map each := by
  rw [h]
  exact List.append_nil _

theorem of_mem_events_ofAttempt {event : Event}
    (h : event ∈ (ofAttempt each all blame attempt).events) :
    (∃ a, each a = event) ∨ ∃ count, all count = event := by
  rcases List.mem_append.1 h with heach | hall
  · obtain ⟨a, -, ha⟩ := List.mem_map.1 heach
    exact .inl ⟨a, ha⟩
  · split at hall
    · exact .inr ⟨_, (List.mem_singleton.1 hall).symm⟩
    · cases hall

/-- The event about all the items is logged if there was no failure. -/
theorem mem_events_ofAttempt_iff (hall : Function.Injective all) (heach : ∀ a n, each a ≠ all n)
    {count : ℕ} :
    all count ∈ (ofAttempt each all blame attempt).events ↔
      ∃ items, attempt.toExcept = .ok items ∧ count = items.length := by
  obtain ⟨items, failure?⟩ := attempt
  cases failure? <;> simp [ofAttempt, Attempt.toExcept, heach, hall.eq_iff]

end Run

/-- The events that a stage adds to those of the stages before it. -/
def phase (source : String) : Stage → List Event
  | .tokens => (Run.lex source).events
  | .parse => Run.onSuccess (Lexer.ofSource source).tokenize fun tokens ↦ (Run.parse tokens).events
  | .check =>
    Run.onSuccess (Lexer.ofSource source).tokenize fun tokens ↦
      Run.onSuccess (Reader.ofTokens tokens).program fun program ↦ (Run.resolve program).events
  | .ir =>
    Run.onSuccess (Lexer.ofSource source).tokenize fun tokens ↦
      Run.onSuccess (Reader.ofTokens tokens).program fun program ↦
        if program.resolve.isSound then (Run.lower program).events else []

/-- The trace of a run is its first event and then what the stages log, one after the other. -/
theorem events_report (stage : Stage) (source : String) :
    (report stage source).events =
      .started stage source.utf8ByteSize :: stage.upTo.flatMap (phase source) := by
  unfold report
  cases stage <;> simp [Run.events_bind, Stage.upTo, Stage.all, Stage.index, phase]

/-- The ways in which a stage can go for a source, each with the entries that are logged. -/
inductive Logs (source : String) : Stage → List Entry → Prop
  | scanned {tokens : List Token} (htokens : (Lexer.ofSource source).tokenize = .ok tokens) :
      Logs source .tokens (tokens.map .scannedToken ++ [.lexedSource tokens.length])
  /-- The lexer hands out some tokens and then an error. -/
  | interrupted {tokens : List Token} {e : UnknownCharacter}
      (hnext : ∀ count, ((Lexer.ofSource source).after count).next.1 =
        (tokens.map .ok ++ [.error e])[count]?) :
      Logs source .tokens (tokens.map .scannedToken)
  | parsed {tokens : List Token} {program : Program}
      (htokens : (Lexer.ofSource source).tokenize = .ok tokens)
      (hprogram : (Reader.ofTokens tokens).program = .ok program) :
      Logs source .parse (program.map .parsedStatement ++ [.parsedProgram program.length])
  /-- The tokens are whole statements and then others that do not begin with a statement. -/
  | broken {front rest : List Token} {program : Program} {e : SlotError}
      (htokens : (Lexer.ofSource source).tokenize = .ok (front ++ rest))
      (hfront : Program.Derivation front program) (hrest : rest ≠ [])
      (he : Reader.statement ⟨rest, (Reader.ofTokens (front ++ rest)).stop⟩ = .error e) :
      Logs source .parse (program.map .parsedStatement)
  | resolved {tokens : List Token} {program : Program}
      (htokens : (Lexer.ofSource source).tokenize = .ok tokens)
      (hprogram : (Reader.ofTokens tokens).program = .ok program) :
      Logs source .check
        [.resolvedProgram program.resolve.symbols.size program.resolve.faults.length]
  | lowered {tokens : List Token} {program : Program}
      (htokens : (Lexer.ofSource source).tokenize = .ok tokens)
      (hprogram : (Reader.ofTokens tokens).program = .ok program)
      (hfaults : program.resolve.faults = []) :
      Logs source .ir [.loweredProgram (2 * program.length)]
  -- The remaining ways are those of stages that the source does not reach.
  | unscanned {stage : Stage} {e : UnknownCharacter} (hstage : .parse ≤ stage)
      (he : (Lexer.ofSource source).tokenize = .error e) : Logs source stage []
  | unparsed {stage : Stage} {tokens : List Token} {e : SyntaxError} (hstage : .check ≤ stage)
      (htokens : (Lexer.ofSource source).tokenize = .ok tokens)
      (he : (Reader.ofTokens tokens).program = .error e) : Logs source stage []
  | unsound {tokens : List Token} {program : Program}
      (htokens : (Lexer.ofSource source).tokenize = .ok tokens)
      (hprogram : (Reader.ofTokens tokens).program = .ok program)
      (hfaults : program.resolve.faults ≠ []) : Logs source .ir []

section Logs

variable {source : String} {stage : Stage} {entries : List Entry}

theorem Logs.eq_phase (h : Logs source stage entries) :
    entries = (phase source stage).map Event.entry := by
  cases h with
  | scanned htokens =>
    have hevents : phase source .tokens = _ := Run.events_ofAttempt_of_ok htokens
    rw [hevents, List.map_append, List.map_map]
    rfl
  | @interrupted tokens e hnext =>
    have hresults : (Lexer.ofSource source).remaining.results = tokens.map .ok ++ [.error e] := by
      apply List.ext_getElem?
      intro count
      rw [← Lexer.next_after, hnext]
    have hevents : phase source .tokens = _ :=
      Run.events_ofAttempt_of_fault (Attempt.results_eq_fault_iff.1 hresults)
    rw [hevents, List.map_map]
    rfl
  | @parsed tokens program htokens hprogram =>
    have hevents : (Run.parse tokens).events = _ :=
      Run.events_ofAttempt_of_ok (Reader.program_eq_ok_iff.1 hprogram)
    rw [phase, htokens, Run.onSuccess_ok, hevents, List.map_append, List.map_map]
    rfl
  | @broken front rest program e htokens hfront hrest he =>
    have hfault := Reader.statements_eq_fault_iff.2 ⟨_, _, rfl, hfront, hrest, he⟩
    have hevents : (Run.parse (front ++ rest)).events = _ := Run.events_ofAttempt_of_fault hfault
    rw [phase, htokens, Run.onSuccess_ok, hevents, List.map_map]
    rfl
  | resolved htokens hprogram =>
    rw [phase, htokens, Run.onSuccess_ok, hprogram]
    rfl
  | @lowered tokens program htokens hprogram hfaults =>
    have hlength : program.lower.length = 2 * program.length := by
      rw [Program.lower, Code.length_ofStatements]
    rw [phase, htokens, Run.onSuccess_ok, hprogram, Run.onSuccess_ok,
      if_pos (Resolution.isSound_iff.2 hfaults), Run.lower, hlength]
    rfl
  | unscanned hstage he =>
    cases stage with
    | tokens => exact absurd hstage (by decide)
    | parse | check | ir =>
      rw [phase, he, Run.onSuccess_error]
      rfl
  | unparsed hstage htokens he =>
    cases stage with
    | tokens | parse => exact absurd hstage (by decide)
    | check | ir =>
      rw [phase, htokens, Run.onSuccess_ok, he, Run.onSuccess_error]
      rfl
  | unsound htokens hprogram hfaults =>
    rw [phase, htokens, Run.onSuccess_ok, hprogram, Run.onSuccess_ok,
      if_neg (mt Resolution.isSound_iff.1 hfaults)]
    rfl

theorem exists_logs_of_lexical {e : UnknownCharacter}
    (he : (Lexer.ofSource source).tokenize = .error e) (stage : Stage) :
    ∃ entries, Logs source stage entries := by
  cases stage with
  | parse | check | ir => exact ⟨_, .unscanned (by decide) he⟩
  | tokens =>
    have hfailure : (Lexer.ofSource source).remaining.failure? = some e :=
      Attempt.toExcept_eq_error_iff.1 he
    have hresults := Attempt.results_eq_fault_iff.2
      (congrArg (Attempt.mk (Lexer.ofSource source).remaining.items) hfailure)
    have hnext := fun count ↦ (Lexer.next_after (.ofSource source) count).trans
      (congrArg (·[count]?) hresults)
    exact ⟨_, .interrupted hnext⟩

theorem exists_logs_of_syntactic {tokens : List Token} {e : SyntaxError}
    (htokens : (Lexer.ofSource source).tokenize = .ok tokens)
    (he : (Reader.ofTokens tokens).program = .error e) (stage : Stage) :
    ∃ entries, Logs source stage entries := by
  cases stage with
  | tokens => exact ⟨_, .scanned htokens⟩
  | check | ir => exact ⟨_, .unparsed (by decide) htokens he⟩
  | parse =>
    obtain ⟨slot, hfault⟩ := Reader.program_eq_error_iff.1 he
    obtain ⟨front, rest, happend, hfront, hrest, hstatement⟩ := Reader.exists_fault hfault
    obtain rfl : tokens = front ++ rest := happend
    exact ⟨_, .broken htokens hfront hrest hstatement⟩

theorem exists_logs (source : String) (stage : Stage) : ∃ entries, Logs source stage entries := by
  cases htokens : (Lexer.ofSource source).tokenize with
  | error e => exact exists_logs_of_lexical htokens stage
  | ok tokens =>
    cases hprogram : (Reader.ofTokens tokens).program with
    | error e => exact exists_logs_of_syntactic htokens hprogram stage
    | ok program =>
      cases stage with
      | tokens => exact ⟨_, .scanned htokens⟩
      | parse => exact ⟨_, .parsed htokens hprogram⟩
      | check => exact ⟨_, .resolved htokens hprogram⟩
      | ir =>
        by_cases hfaults : program.resolve.faults = []
        · exact ⟨_, .lowered htokens hprogram hfaults⟩
        · exact ⟨_, .unsound htokens hprogram hfaults⟩

/-- A stage goes in exactly one way. -/
theorem logs_iff :
    Logs source stage entries ↔ entries = (phase source stage).map Event.entry := by
  constructor
  · exact Logs.eq_phase
  · rintro rfl
    obtain ⟨entries, h⟩ := exists_logs source stage
    exact h.eq_phase ▸ h

/-- The stage that an event belongs to, unless it is the first event of a run or the last of a session. -/
def Event.stage? : Event → Option Stage
  | .started _ _ | .inputClosed _ => none
  | .scannedToken _ | .lexedSource _ => some .tokens
  | .parsedStatement _ | .parsedProgram _ => some .parse
  | .resolvedProgram _ _ => some .check
  | .loweredProgram _ => some .ir

theorem stage?_of_mem_phase {event : Event} (h : event ∈ phase source stage) :
    event.stage? = some stage := by
  cases stage with
  | tokens => rcases Run.of_mem_events_ofAttempt h with ⟨token, rfl⟩ | ⟨count, rfl⟩ <;> rfl
  | parse =>
    obtain ⟨tokens, -, h⟩ := Run.mem_onSuccess.1 h
    rcases Run.of_mem_events_ofAttempt h with ⟨statement, rfl⟩ | ⟨count, rfl⟩ <;> rfl
  | check =>
    obtain ⟨tokens, -, h⟩ := Run.mem_onSuccess.1 h
    obtain ⟨program, -, h⟩ := Run.mem_onSuccess.1 h
    obtain rfl := List.mem_singleton.1 h
    rfl
  | ir =>
    obtain ⟨tokens, -, h⟩ := Run.mem_onSuccess.1 h
    obtain ⟨program, -, h⟩ := Run.mem_onSuccess.1 h
    split at h
    · obtain rfl := List.mem_singleton.1 h
      rfl
    · cases h

/-- An event is in the trace of a run that reaches its stage if the stage logs it. -/
theorem mem_events_report_iff {event : Event} {other : Stage} (hevent : event.stage? = some other) :
    event ∈ (report stage source).events ↔ other ≤ stage ∧ event ∈ phase source other := by
  rw [events_report, List.mem_cons, List.mem_flatMap]
  constructor
  · rintro (rfl | ⟨found, hfound, hmem⟩)
    · cases hevent
    · have hsame := stage?_of_mem_phase hmem
      obtain rfl : other = found := Option.some.inj (hevent.symm.trans hsame)
      exact ⟨Stage.mem_upTo.1 hfound, hmem⟩
  · rintro ⟨hle, hmem⟩
    exact .inr ⟨other, Stage.mem_upTo.2 hle, hmem⟩

end Logs

/-! ## What the trace shows of the outcome -/

section Outcome

variable {source : String} {stage : Stage} {e : RunError}

theorem mem_lexedSource_iff {count : ℕ} :
    .lexedSource count ∈ (report stage source).events ↔
      ∃ tokens, (Lexer.ofSource source).tokenize = .ok tokens ∧ count = tokens.length := by
  have hall : Function.Injective Event.lexedSource := fun _ _ ↦ Event.lexedSource.inj
  rw [mem_events_report_iff rfl, and_iff_right stage.tokens_le]
  exact Run.mem_events_ofAttempt_iff hall (by simp)

theorem mem_parsedProgram_iff {count : ℕ} :
    .parsedProgram count ∈ (report stage source).events ↔
      .parse ≤ stage ∧ ∃ tokens, (Lexer.ofSource source).tokenize = .ok tokens ∧
        ∃ program, (Reader.ofTokens tokens).program = .ok program ∧ count = program.length := by
  have hall : Function.Injective Event.parsedProgram := fun _ _ ↦ Event.parsedProgram.inj
  rw [mem_events_report_iff rfl, phase, Run.mem_onSuccess]
  simp only [Reader.program_eq_ok_iff]
  refine and_congr_right fun _ ↦ exists_congr fun tokens ↦ and_congr_right fun _ ↦ ?_
  exact Run.mem_events_ofAttempt_iff hall (by simp)

theorem mem_resolvedProgram_iff {symbols faults : ℕ} :
    .resolvedProgram symbols faults ∈ (report stage source).events ↔
      .check ≤ stage ∧ ∃ tokens, (Lexer.ofSource source).tokenize = .ok tokens ∧
        ∃ program, (Reader.ofTokens tokens).program = .ok program ∧
          symbols = program.resolve.symbols.size ∧ faults = program.resolve.faults.length := by
  rw [mem_events_report_iff rfl, phase, Run.mem_onSuccess]
  simp only [Run.mem_onSuccess, Run.resolve, List.mem_singleton, Event.resolvedProgram.injEq]

/-- The ways in which a run can fail, each with the error. -/
inductive FailsWith (source : String) (stage : Stage) : RunError → Prop
  | lexical {e : UnknownCharacter} (he : (Lexer.ofSource source).tokenize = .error e) :
      FailsWith source stage (.lexical e)
  | syntactic {tokens : List Token} {e : SyntaxError} (hstage : .parse ≤ stage)
      (htokens : (Lexer.ofSource source).tokenize = .ok tokens)
      (he : (Reader.ofTokens tokens).program = .error e) : FailsWith source stage (.syntactic e)
  | semantic {tokens : List Token} {program : Program} (hstage : .check ≤ stage)
      (htokens : (Lexer.ofSource source).tokenize = .ok tokens)
      (hprogram : (Reader.ofTokens tokens).program = .ok program)
      (hfaults : program.resolve.faults ≠ []) :
      FailsWith source stage (.semantic program.resolve.faults)

theorem FailsWith.outcome_eq (h : FailsWith source stage e) :
    (report stage source).outcome = .error e := by
  cases h with
  | lexical he => exact outcome_report_of_lexical he stage
  | syntactic hstage htokens he =>
    rw [outcome_report_of_ne_tokens htokens (Stage.parse_le_iff.1 hstage), he]
    rfl
  | semantic hstage htokens hprogram hfaults =>
    obtain ⟨hne, hparse⟩ := Stage.check_le_iff.1 hstage
    rw [outcome_report_of_program htokens hprogram hne,
      outcomeOfProgram_of_unsound (mt Resolution.isSound_iff.1 hfaults) hparse]

theorem exists_ok_or_failsWith (source : String) (stage : Stage) :
    (∃ text, (report stage source).outcome = .ok text) ∨ ∃ e, FailsWith source stage e := by
  cases htokens : (Lexer.ofSource source).tokenize with
  | error e => exact .inr ⟨_, .lexical htokens⟩
  | ok tokens =>
    by_cases hstage : stage = .tokens
    · exact .inl ⟨_, hstage ▸ outcome_report_tokens htokens⟩
    cases hprogram : (Reader.ofTokens tokens).program with
    | error e => exact .inr ⟨_, .syntactic (Stage.parse_le_iff.2 hstage) htokens hprogram⟩
    | ok program =>
      rw [outcome_report_of_program htokens hprogram hstage]
      by_cases hparse : stage = .parse
      · exact .inl ⟨_, if_pos hparse⟩
      by_cases hfaults : program.resolve.faults = []
      · exact .inl (exists_outcomeOfProgram (Resolution.isSound_iff.2 hfaults) stage)
      · exact .inr ⟨_, .semantic (Stage.check_le_iff.2 ⟨hstage, hparse⟩) htokens hprogram hfaults⟩

theorem failsWith_iff : FailsWith source stage e ↔ (report stage source).outcome = .error e := by
  refine ⟨FailsWith.outcome_eq, fun he ↦ ?_⟩
  rcases exists_ok_or_failsWith source stage with ⟨text, htext⟩ | ⟨e', he'⟩
  · cases htext.symm.trans he
  · cases he'.outcome_eq.symm.trans he
    exact he'

/-- A run fails in the first stage if its trace does not say that the source was lexed. -/
theorem exists_lexical_iff :
    (∃ e, (report stage source).outcome = .error (.lexical e)) ↔
      ¬ ∃ count, .lexedSource count ∈ (report stage source).events := by
  simp only [← failsWith_iff, mem_lexedSource_iff]
  constructor
  · rintro ⟨e, he⟩ ⟨count, tokens, htokens, -⟩
    cases he with
    | lexical he => cases htokens.symm.trans he
  · intro h
    cases htokens : (Lexer.ofSource source).tokenize with
    | error e => exact ⟨e, .lexical htokens⟩
    | ok tokens => exact absurd ⟨tokens.length, tokens, htokens, rfl⟩ h

/-- A run fails in the second stage if its trace goes beyond the first and does not say that a program
was read. -/
theorem exists_syntactic_iff :
    (∃ e, (report stage source).outcome = .error (.syntactic e)) ↔
      .parse ≤ stage ∧ (∃ count, .lexedSource count ∈ (report stage source).events) ∧
        ¬ ∃ count, .parsedProgram count ∈ (report stage source).events := by
  simp only [← failsWith_iff, mem_lexedSource_iff, mem_parsedProgram_iff]
  constructor
  · rintro ⟨e, he⟩
    cases he with
    | syntactic hstage htokens he =>
      refine ⟨hstage, ⟨_, _, htokens, rfl⟩, ?_⟩
      rintro ⟨count, -, others, hothers, program, hprogram, -⟩
      cases htokens.symm.trans hothers
      cases hprogram.symm.trans he
  · rintro ⟨hstage, ⟨-, tokens, htokens, -⟩, h⟩
    cases hprogram : (Reader.ofTokens tokens).program with
    | error e => exact ⟨e, .syntactic hstage htokens hprogram⟩
    | ok program =>
      exact absurd ⟨program.length, hstage, tokens, htokens, program, hprogram, rfl⟩ h

/-- A run fails in the third stage if its trace counts any faults. -/
theorem exists_semantic_iff :
    (∃ faults, (report stage source).outcome = .error (.semantic faults)) ↔
      ∃ symbols faults, .resolvedProgram symbols faults ∈ (report stage source).events ∧
        faults ≠ 0 := by
  simp only [← failsWith_iff, mem_resolvedProgram_iff]
  constructor
  · rintro ⟨faults, he⟩
    cases he with
    | semantic hstage htokens hprogram hfaults =>
      exact ⟨_, _, ⟨hstage, _, htokens, _, hprogram, rfl, rfl⟩, mt List.length_eq_zero_iff.1 hfaults⟩
  · rintro ⟨symbols, faults, ⟨hstage, tokens, htokens, program, hprogram, -, rfl⟩, hfaults⟩
    exact ⟨_, .semantic hstage htokens hprogram (mt List.length_eq_zero_iff.2 hfaults)⟩

end Outcome

/-! ## The trace as it is written -/

/-- The name of a stage in its trace. -/
inductive Stage.HasLabel : Stage → String → Prop
  | tokens : HasLabel .tokens "Tokens"
  | parse : HasLabel .parse "Parse"
  | check : HasLabel .check "Check"
  | ir : HasLabel .ir "Ir"

theorem Stage.hasLabel_iff {stage : Stage} {label : String} :
    stage.HasLabel label ↔ label = Event.stageLabel stage := by
  constructor
  · rintro (_ | _ | _ | _) <;> rfl
  · rintro rfl
    cases stage <;> constructor

theorem entries_report (stage : Stage) (source : String) :
    (report stage source).entries =
      ⟨"DEBUG", "running frontend",
          [("stage", Event.stageLabel stage), ("bytes", source.utf8ByteSize.repr)]⟩ ::
        stage.upTo.flatMap fun other ↦ (phase source other).map Event.entry := by
  rw [Run.entries, events_report, List.map_cons, List.map_flatMap]
  rfl

theorem events_tail_prefix {stage later : Stage} (h : stage ≤ later) (source : String) :
    (report stage source).events.tail <+: (report later source).events.tail := by
  rw [events_report, events_report, List.tail_cons, List.tail_cons]
  obtain ⟨others, hothers⟩ := Stage.upTo_prefix h
  refine ⟨others.flatMap (phase source), ?_⟩
  rw [← List.flatMap_append, hothers]

theorem mem_entries_resolvedProgram_iff {stage : Stage} {source : String} {symbols faults : ℕ} :
    .resolvedProgram symbols faults ∈ (report stage source).entries ↔
      .resolvedProgram symbols faults ∈ (report stage source).events := by
  rw [Run.entries, List.mem_map]
  simp only [Event.entry_eq_resolvedProgram_iff, exists_eq_right]

/-- The trace of a run is an entry about its start and then, for each stage up to the chosen one, what
that stage logs. Traces of one source grow with the stage, apart from the stage that the first entry
names, and the stage that fails is the one whose closing message the trace lacks or that counts faults. -/
theorem trace_mirrors_run (source : String) :
    (∀ stage entries, (report stage source).entries = entries ↔
      ∃ (label : String) (phases : Stage → List Entry), stage.HasLabel label ∧
        (∀ other, Logs source other (phases other)) ∧
        entries =
          ⟨"DEBUG", "running frontend", [("stage", label), ("bytes", source.utf8ByteSize.repr)]⟩ ::
            stage.upTo.flatMap phases) ∧
    (∀ stage later, stage ≤ later →
      (report stage source).events.tail <+: (report later source).events.tail ∧
        (report stage source).entries.tail <+: (report later source).entries.tail) ∧
    ∀ stage,
      ((∃ e, (report stage source).outcome = .error (.lexical e)) ↔
        ¬ ∃ entry ∈ (report stage source).entries, entry.message = "lexed source") ∧
      ((∃ e, (report stage source).outcome = .error (.syntactic e)) ↔
        .parse ≤ stage ∧
          (∃ entry ∈ (report stage source).entries, entry.message = "lexed source") ∧
          ¬ ∃ entry ∈ (report stage source).entries, entry.message = "parsed program") ∧
      ((∃ faults, (report stage source).outcome = .error (.semantic faults)) ↔
        ∃ symbols faults : ℕ, faults ≠ 0 ∧
          ⟨"DEBUG", "analyzed program", [("symbols", symbols.repr), ("diagnostics", faults.repr)]⟩ ∈
            (report stage source).entries) := by
  refine ⟨fun stage entries ↦ ?_, fun stage later hle ↦ ?_, fun stage ↦ ⟨?_, ?_, ?_⟩⟩
  · constructor
    · rintro rfl
      exact ⟨_, _, Stage.hasLabel_iff.2 rfl, fun other ↦ logs_iff.2 rfl, entries_report stage source⟩
    · rintro ⟨label, phases, hlabel, hphases, rfl⟩
      obtain rfl := Stage.hasLabel_iff.1 hlabel
      obtain rfl : phases = fun other ↦ (phase source other).map Event.entry :=
        funext fun other ↦ logs_iff.1 (hphases other)
      exact entries_report stage source
  · have hevents := events_tail_prefix hle source
    refine ⟨hevents, ?_⟩
    rw [Run.entries, Run.entries, ← List.map_tail, ← List.map_tail]
    exact hevents.map Event.entry
  · rw [exists_lexical_iff, Run.exists_message_iff fun _ ↦ Event.message_eq_lexedSource_iff]
  · rw [exists_syntactic_iff, Run.exists_message_iff fun _ ↦ Event.message_eq_lexedSource_iff,
      Run.exists_message_iff fun _ ↦ Event.message_eq_parsedProgram_iff]
  · rw [exists_semantic_iff]
    refine exists_congr fun symbols ↦ exists_congr fun faults ↦ ?_
    rw [and_comm, ← mem_entries_resolvedProgram_iff]
    rfl

end StraightLine
