import StraightLine.Proofs.Session.Answer
import StraightLine.Proofs.Text.Lines

/-!
# Conversations

A session is a conversation: the lines are answered one after the other, each at the stage that the
answer before it leaves in force. Nothing else is handed on, so the session on more lines goes on as one
that starts at that stage, which is the last stage that was chosen.
-/

namespace StraightLine.Session

open Text

/-- Lines that are answered one after the other, and the stages in force before and after them. -/
inductive Conversation : Stage → List String → List Answer → Stage → Prop
  | nil {stage : Stage} : Conversation stage [] [] stage
  | cons {stage last : Stage} {line trimmed : String} {lines : List String} {answer : Answer}
      {answers : List Answer} (htrims : TrimsTo line trimmed) (hanswer : Answers stage trimmed answer)
      (hlater : Conversation answer.stage lines answers last) :
      Conversation stage (line :: lines) (answer :: answers) last

/-- Whether a stage is the last one that is chosen on some lines, or the one in force before them if
they choose none. -/
inductive LastChosen (stage : Stage) (lines : List String) : Stage → Prop
  | kept (hlines : ∀ line ∈ lines, ∀ choice, ¬ Chooses line choice) : LastChosen stage lines stage
  | chosen {earlier later : List String} {line : String} {choice : Stage}
      (hlines : lines = earlier ++ line :: later) (hline : Chooses line choice)
      (hlater : ∀ line ∈ later, ∀ choice, ¬ Chooses line choice) : LastChosen stage lines choice

section Conversation

variable {stage last : Stage} {lines : List String} {answers : List Answer}

theorem exists_conversation (stage : Stage) (lines : List String) :
    ∃ answers last, Conversation stage lines answers last := by
  induction lines generalizing stage with
  | nil => exact ⟨[], stage, .nil⟩
  | cons line lines ih =>
    obtain ⟨answer, hanswer⟩ := exists_answers stage (trim line)
    obtain ⟨answers, last, hlater⟩ := ih answer.stage
    exact ⟨answer :: answers, last, .cons (trimsTo_trim line) hanswer hlater⟩

/-- The lines and the stage before them leave no choice of answers. -/
theorem Conversation.unique (h : Conversation stage lines answers last) {others : List Answer}
    {final : Stage} (hothers : Conversation stage lines others final) :
    others = answers ∧ final = last := by
  induction h generalizing others with
  | nil =>
    cases hothers
    exact ⟨rfl, rfl⟩
  | cons htrims hanswer hlater ih =>
    cases hothers with
    | cons htrimsOther hother hothers =>
      obtain rfl := ((answers_iff htrimsOther).1 hother).trans ((answers_iff htrims).1 hanswer).symm
      obtain ⟨rfl, rfl⟩ := ih hothers
      exact ⟨rfl, rfl⟩

theorem Conversation.iff (h : Conversation stage lines answers last) {others : List Answer}
    {final : Stage} : Conversation stage lines others final ↔ others = answers ∧ final = last := by
  refine ⟨h.unique, ?_⟩
  rintro ⟨rfl, rfl⟩
  exact h

/-! ## The last choice -/

theorem lastChosen_nil_iff {final : Stage} : LastChosen stage [] final ↔ final = stage := by
  constructor
  · intro h
    cases h with
    | kept => rfl
    | chosen hlines => exact absurd hlines.symm (by simp)
  · rintro rfl
    exact .kept (List.forall_mem_nil _)

/-- A line hands on only the stage that its answer leaves in force. -/
theorem lastChosen_cons_iff {line trimmed : String} {answer : Answer}
    (htrims : TrimsTo line trimmed) (hanswer : Answers stage trimmed answer) {final : Stage} :
    LastChosen stage (line :: lines) final ↔ LastChosen answer.stage lines final := by
  constructor
  · intro h
    cases h with
    | kept hlines =>
      obtain ⟨hline, hlater⟩ := List.forall_mem_cons.1 hlines
      rw [← hanswer.stage_eq_of_not_chooses htrims hline]
      exact .kept hlater
    | @chosen earlier later _ _ hlines hline hlater =>
      -- the last choice is made on this line or on a later one
      cases earlier with
      | nil =>
        obtain ⟨rfl, rfl⟩ := List.cons.inj hlines
        rw [← hanswer.stage_eq_of_chooses htrims hline]
        exact .kept hlater
      | cons first earlier => exact .chosen (List.cons.inj hlines).2 hline hlater
  · intro h
    cases h with
    | kept hlater =>
      by_cases hline : ∃ choice, Chooses line choice
      · obtain ⟨choice, hchoice⟩ := hline
        rw [hanswer.stage_eq_of_chooses htrims hchoice]
        exact .chosen (List.nil_append _).symm hchoice hlater
      · rw [hanswer.stage_eq_of_not_chooses htrims (not_exists.1 hline)]
        exact .kept (List.forall_mem_cons.2 ⟨not_exists.1 hline, hlater⟩)
    | chosen hlines hline hlater =>
      subst hlines
      exact .chosen (List.cons_append ..).symm hline hlater

theorem Conversation.lastChosen_iff (h : Conversation stage lines answers last) {final : Stage} :
    LastChosen stage lines final ↔ final = last := by
  induction h with
  | nil => exact lastChosen_nil_iff
  | cons htrims hanswer _ ih => exact (lastChosen_cons_iff htrims hanswer).trans ih

/-! ## Sessions -/

theorem converse_cons (stage : Stage) (line : String) (later : List Bytes) :
    (converse stage (.ofText line :: later)) =
      let answer := answerTo stage line
      let transcript := converse answer.stage later
      { out := prompt stage ++ answer.out ++ transcript.out
        err := answer.err ++ transcript.err
        finished := transcript.finished
        events := answer.events ++ transcript.events } := by
  have htext : (Bytes.ofText line).text? = some line := Bytes.text?_eq_some_iff.2 rfl
  simp only [converse, turn, htext, answerTo, Turn.transcript, Transcript.append]

/-- Before the lines that follow a conversation a session writes the answers, with a prompt for each of
its stages but the last. -/
theorem Conversation.converse_append (h : Conversation stage lines answers last) :
    ∃ body, body ++ prompt last =
        prompt stage ++ String.join (answers.map fun answer ↦ answer.out ++ prompt answer.stage) ∧
      ∀ later, (converse stage (lines.map .ofText ++ later)).out = body ++ (converse last later).out ∧
        (converse stage (lines.map .ofText ++ later)).err =
          String.join (answers.map Answer.err) ++ (converse last later).err ∧
        (converse stage (lines.map .ofText ++ later)).finished = (converse last later).finished ∧
        (converse stage (lines.map .ofText ++ later)).events =
          answers.flatMap Answer.events ++ (converse last later).events := by
  induction h with
  | nil => exact ⟨"", by simp, fun later ↦ by simp⟩
  | @cons stage last line trimmed lines answer answers htrims hanswer hlater ih =>
    obtain ⟨body, hbody, htranscript⟩ := ih
    obtain rfl := (answers_iff htrims).1 hanswer
    -- each step moves a prompt: behind an answer in the fold, in front of one in the recursion
    refine ⟨prompt stage ++ (answerTo stage line).out ++ body, ?_, ?_⟩
    · rw [String.append_assoc, hbody, List.map_cons, String.join_cons]
      simp only [String.append_assoc]
    · intro later
      obtain ⟨hout, herr, hfinished, hevents⟩ := htranscript later
      rw [List.map_cons, List.cons_append, converse_cons, List.map_cons, String.join_cons,
        List.flatMap_cons]
      simp only [hout, herr, hfinished, hevents, String.append_assoc, List.append_assoc, and_self]

end Conversation

/-- A session is a fold of its lines over the stage: its lines are answered in one way, each answer is
followed by a prompt with the name of the stage it leaves in force, and the input that follows a whole
line is answered as if it came first, at the stage chosen last. -/
theorem session_folds_lines (stage : Stage) {input : Bytes} {text : String}
    (htext : input.text? = some text) :
    [Stage.tokens, .parse, .check, .ir].map Stage.name = ["tokens", "parse", "check", "ir"] ∧
    ∃ answers last,
      (∀ others final, Conversation stage (lines text) others final ↔ others = answers ∧ final = last) ∧
      (∀ final, LastChosen stage (lines text) final ↔ final = last) ∧
      (converse stage input.lines).out = stage.name ++ "> " ++
        String.join (answers.map fun answer ↦ answer.out ++ (answer.stage.name ++ "> ")) ++ "\n" ∧
      (converse stage input.lines).err = String.join (answers.map Answer.err) ∧
      (converse stage input.lines).finished = true ∧
      (converse stage input.lines).events = answers.flatMap Answer.events ++ [.inputClosed last] ∧
      ∃ body, (converse stage input.lines).out = body ++ (last.name ++ "> ") ++ "\n" ∧
        (IsEnded lineFeed input → ∀ later : Bytes,
          (converse stage (input ++ later).lines).out = body ++ (converse last later.lines).out ∧
          (converse stage (input ++ later).lines).err =
            (converse stage input.lines).err ++ (converse last later.lines).err) := by
  obtain rfl := Bytes.text?_eq_some_iff.1 htext
  obtain ⟨answers, last, hconversation⟩ := exists_conversation stage (lines text)
  obtain ⟨body, hbody, htranscript⟩ := hconversation.converse_append
  rw [← Bytes.lines_ofText] at htranscript
  obtain ⟨hout, herr, hfinished, hevents⟩ := htranscript []
  rw [List.append_nil] at hout herr hfinished hevents
  have hprompt : (converse stage (Bytes.ofText text).lines).out = body ++ prompt last ++ "\n" :=
    hout.trans String.append_assoc.symm
  have herrs : (converse stage (Bytes.ofText text).lines).err = String.join (answers.map Answer.err) :=
    herr.trans String.append_empty
  refine ⟨rfl, answers, last, fun _ _ ↦ hconversation.iff, fun _ ↦ hconversation.lastChosen_iff, ?_,
    herrs, hfinished, hevents, body, hprompt, ?_⟩
  · rw [hprompt, hbody]
    rfl
  · intro hended later
    obtain ⟨hout, herr, -⟩ := htranscript later.lines
    rw [Bytes.lines_append hended, herrs]
    exact ⟨hout, herr⟩

/-- After an error, a line of white space and an indented choice, a session goes on at the stage that was
chosen. -/
theorem session_folds_lines_choosing_ir :
    ∃ input : Bytes, input.text? = some "x = 1\n \u3000\t\n\t:stage  IR \n" ∧ IsEnded lineFeed input ∧
      (converse .parse input.lines).out = "parse> parse> parse> Stage set to ir\nir> \n" ∧
      ∀ later : Bytes,
        (converse .parse (input ++ later).lines).out =
          "parse> parse> parse> Stage set to ir\n" ++ (converse .ir later.lines).out ∧
        (converse .parse (input ++ later).lines).err =
          "Parse error: line 1, column 6: Unexpected end of input, expected SEMICOLON\n" ++
            (converse .ir later.lines).err := by
  let text := "x = 1\n \u3000\t\n\t:stage  IR \n"
  have htext : (Bytes.ofText text).text? = some text := Bytes.text?_eq_some_iff.2 rfl
  have hended : IsEnded lineFeed (Bytes.ofText text) := .inr (by decide +kernel)
  have hlines : lines text = ["x = 1", " \u3000\t"] ++ "\t:stage  IR " :: [] := by decide +kernel
  have hchooses : Chooses "\t:stage  IR " .ir := by
    refine ⟨"stage  IR", "IR", trimsTo_iff.2 ?_, hasWords_iff.2 ?_, ?_⟩ <;> decide +kernel
  have hwritten : (converse .parse (Bytes.ofText text).lines).out =
      "parse> parse> parse> Stage set to ir\n" ++ ("ir" ++ "> ") ++ "\n" := by
    decide +kernel
  have herr : (converse .parse (Bytes.ofText text).lines).err =
      "Parse error: line 1, column 6: Unexpected end of input, expected SEMICOLON\n" := by
    decide +kernel
  obtain ⟨-, answers, last, -, hlast, -, -, -, -, body, hout, hlater⟩ := session_folds_lines .parse htext
  obtain rfl := (hlast .ir).1 (.chosen hlines hchooses (List.forall_mem_nil _))
  have hprompt := (String.append_left_inj "\n").1 (hout.symm.trans hwritten)
  have hbody : body = "parse> parse> parse> Stage set to ir\n" :=
    (String.append_left_inj ("ir" ++ "> ")).1 hprompt
  subst hbody
  refine ⟨_, htext, hended, hwritten, fun later ↦ ?_⟩
  rw [← herr]
  exact hlater hended later

end StraightLine.Session
