import StraightLine.Proofs.Text.Words
import StraightLine.Session
import Mathlib.Tactic.Common

/-!
# Answers

What a session owes to a line, told from the line without the white space at its ends, from the words
of a command and from the stage in force: `Answers`. There is exactly one answer to each line, and the
session gives it. Only a line that chooses a stage leaves another stage in force than the one it was read
at.
-/

namespace StraightLine

/-- Whether two texts differ at most in the case of ASCII letters. -/
def Text.EqAnyCase (text other : String) : Prop :=
  text.toList.map Char.toLower = other.toList.map Char.toLower

instance (text other : String) : Decidable (Text.EqAnyCase text other) :=
  inferInstanceAs (Decidable (_ = _))

open Text

namespace Stage

theorem mem_all (stage : Stage) : stage ∈ all := by
  cases stage <;> decide

theorem name_injective {stage other : Stage} (h : stage.name = other.name) : stage = other := by
  revert h
  cases stage <;> cases other <;> decide

/-- The names of the stages are written in small letters. -/
theorem map_toLower_name (stage : Stage) : stage.name.toList.map Char.toLower = stage.name.toList := by
  cases stage <;> decide

theorem name_toList_eq_iff {stage : Stage} {name : String} :
    stage.name.toList = name.toList.map Char.toLower ↔ EqAnyCase name stage.name := by
  rw [EqAnyCase, map_toLower_name, eq_comm]

theorem eq_of_eqAnyCase {stage other : Stage} {name : String} (h : EqAnyCase name stage.name)
    (hother : EqAnyCase name other.name) : stage = other := by
  have hlist : stage.name.toList = other.name.toList :=
    (name_toList_eq_iff.2 h).trans (name_toList_eq_iff.2 hother).symm
  exact name_injective (String.toList_inj.1 hlist)

theorem ofNameAnyCase_cases (name : String) :
    (∃ stage, ofNameAnyCase name = .ok stage ∧ EqAnyCase name stage.name) ∨
      (ofNameAnyCase name = .error ⟨name⟩ ∧ ∀ stage : Stage, ¬ EqAnyCase name stage.name) := by
  rw [ofNameAnyCase]
  split
  · next stage hfound =>
    have hname := List.find?_some hfound
    rw [decide_eq_true_eq, name_toList_eq_iff] at hname
    exact .inl ⟨stage, rfl, hname⟩
  · next hnone =>
    refine .inr ⟨rfl, fun stage ↦ ?_⟩
    have hname := List.find?_eq_none.1 hnone stage stage.mem_all
    rwa [decide_eq_true_eq, name_toList_eq_iff] at hname

theorem ofNameAnyCase_of_eqAnyCase {stage : Stage} {name : String} (h : EqAnyCase name stage.name) :
    ofNameAnyCase name = .ok stage := by
  rcases ofNameAnyCase_cases name with ⟨found, hfound, hname⟩ | ⟨-, hnone⟩
  · rw [hfound, eq_of_eqAnyCase hname h]
  · exact absurd h (hnone stage)

theorem ofNameAnyCase_of_forall_not {name : String} (h : ∀ stage : Stage, ¬ EqAnyCase name stage.name) :
    ofNameAnyCase name = .error ⟨name⟩ := by
  rcases ofNameAnyCase_cases name with ⟨found, -, hname⟩ | ⟨herror, -⟩
  · exact absurd hname (h found)
  · exact herror

end Stage

namespace Session

/-- What a session writes and logs in answer to a line, and the stage it leaves in force. -/
structure Answer where
  out : String
  err : String
  events : List Event
  stage : Stage
deriving DecidableEq

/-- How a line, without the white space at its ends, is answered at a stage. -/
inductive Answers (stage : Stage) : String → Answer → Prop
  | blank : Answers stage "" ⟨"", "", [], stage⟩
  | reported {source text : String} (hblank : source ≠ "") (hcolon : ∀ command, source ≠ ":" ++ command)
      (hreport : (report stage source).outcome = .ok text) :
      Answers stage source ⟨text, "", (report stage source).events, stage⟩
  | refused {source : String} {e : RunError} (hblank : source ≠ "")
      (hcolon : ∀ command, source ≠ ":" ++ command)
      (hreport : (report stage source).outcome = .error e) :
      Answers stage source ⟨"", e.message ++ "\n", (report stage source).events, stage⟩
  | shown {command : String} (hwords : HasWords command.toList ["stage"]) :
      Answers stage (":" ++ command) ⟨stage.name ++ "\n", "", [], stage⟩
  | chosen {command name : String} {choice : Stage} (hwords : HasWords command.toList ["stage", name])
      (hname : EqAnyCase name choice.name) :
      Answers stage (":" ++ command) ⟨s!"Stage set to {choice.name}\n", "", [], choice⟩
  | unknownStage {command name : String} (hwords : HasWords command.toList ["stage", name])
      (hname : ∀ choice : Stage, ¬ EqAnyCase name choice.name) :
      Answers stage (":" ++ command)
        ⟨"", s!"Invalid command: Unknown stage '{name}'" ++ "\n", [], stage⟩
  | unknownCommand {command : String} (hshow : ¬ HasWords command.toList ["stage"])
      (hchoose : ∀ name, ¬ HasWords command.toList ["stage", name]) :
      Answers stage (":" ++ command)
        ⟨"", s!"Invalid command: Unknown command ':{command}'" ++ "\n", [], stage⟩

theorem exists_answers (stage : Stage) (trimmed : String) : ∃ answer, Answers stage trimmed answer := by
  by_cases hcolon : ∃ command, trimmed = ":" ++ command
  · obtain ⟨command, rfl⟩ := hcolon
    by_cases hshow : HasWords command.toList ["stage"]
    · exact ⟨_, .shown hshow⟩
    by_cases hchoose : ∃ name, HasWords command.toList ["stage", name]
    · obtain ⟨name, hwords⟩ := hchoose
      by_cases hname : ∃ choice : Stage, EqAnyCase name choice.name
      · obtain ⟨choice, hchoice⟩ := hname
        exact ⟨_, .chosen hwords hchoice⟩
      · exact ⟨_, .unknownStage hwords (not_exists.1 hname)⟩
    · exact ⟨_, .unknownCommand hshow (not_exists.1 hchoose)⟩
  · by_cases hblank : trimmed = ""
    · subst hblank
      exact ⟨_, .blank⟩
    cases hreport : (report stage trimmed).outcome with
    | ok text => exact ⟨_, .reported hblank (not_exists.1 hcolon) hreport⟩
    | error e => exact ⟨_, .refused hblank (not_exists.1 hcolon) hreport⟩

/-! ## The answer that is given -/

section Reading

variable {line command : String}

theorem toList_colon_append (command : String) : (":" ++ command).toList = ':' :: command.toList := by
  rw [String.toList_append]
  rfl

theorem Line.ofText_blank (h : trim line = "") : Line.ofText line = .blank := by
  rw [Line.ofText, h]
  rfl

theorem Line.ofText_source (hblank : trim line ≠ "") (hcolon : ∀ command, trim line ≠ ":" ++ command) :
    Line.ofText line = .source (trim line) := by
  rw [Line.ofText]
  split
  · next hnil => exact absurd (String.toList_eq_nil_iff.1 hnil) hblank
  · next command hcons =>
    refine absurd ?_ (hcolon (.ofList command))
    rw [← String.toList_inj, hcons, toList_colon_append, String.toList_ofList]
  · rfl

theorem Line.ofText_showStage (h : trim line = ":" ++ command)
    (hwords : HasWords command.toList ["stage"]) : Line.ofText line = .showStage := by
  simp only [Line.ofText, h, toList_colon_append, String.ofList_toList, hasWords_iff.1 hwords]

theorem Line.ofText_chooseStage {name : String} (h : trim line = ":" ++ command)
    (hwords : HasWords command.toList ["stage", name]) : Line.ofText line = .chooseStage name := by
  simp only [Line.ofText, h, toList_colon_append, String.ofList_toList, hasWords_iff.1 hwords]

theorem Line.ofText_unknown (h : trim line = ":" ++ command)
    (hshow : ¬ HasWords command.toList ["stage"])
    (hchoose : ∀ name, ¬ HasWords command.toList ["stage", name]) :
    Line.ofText line = .unknown command := by
  rw [hasWords_iff] at hshow
  simp only [hasWords_iff] at hchoose
  simp only [Line.ofText, h, toList_colon_append, String.ofList_toList]

end Reading

def answerTo (stage : Stage) (line : String) : Answer :=
  let reply := (Line.ofText line).reply stage
  ⟨reply.out, reply.err, reply.run.events, reply.stage⟩

theorem answerTo_source {stage : Stage} {line : String} (hblank : trim line ≠ "")
    (hcolon : ∀ command, trim line ≠ ":" ++ command) :
    answerTo stage line = match (report stage (trim line)).outcome with
      | .ok text => ⟨text, "", (report stage (trim line)).events, stage⟩
      | .error e => ⟨"", e.message ++ "\n", (report stage (trim line)).events, stage⟩ := by
  rw [answerTo, Line.ofText_source hblank hcolon]
  simp only [Line.reply, Reply.out, Reply.err, Run.mapError]
  cases (report stage (trim line)).outcome <;> rfl

theorem eq_answerTo_of_answers {stage : Stage} {line trimmed : String} {answer : Answer}
    (htrims : TrimsTo line trimmed) (h : Answers stage trimmed answer) : answer = answerTo stage line := by
  -- the reading of a line looks only at its trimmed text, on which the cases of the answer are
  have htrim : trim line = trimmed := htrims.eq_trim.symm
  cases h with
  | blank =>
    rw [answerTo, Line.ofText_blank htrim]
    rfl
  | reported hblank hcolon hreport | refused hblank hcolon hreport =>
    subst htrim
    rw [answerTo_source hblank hcolon, hreport]
  | shown hwords =>
    rw [answerTo, Line.ofText_showStage htrim hwords]
    rfl
  | chosen hwords hname =>
    rw [answerTo, Line.ofText_chooseStage htrim hwords, Line.reply, Stage.ofNameAnyCase_of_eqAnyCase hname]
    rfl
  | unknownStage hwords hname =>
    rw [answerTo, Line.ofText_chooseStage htrim hwords, Line.reply,
      Stage.ofNameAnyCase_of_forall_not hname]
    rfl
  | unknownCommand hshow hchoose =>
    rw [answerTo, Line.ofText_unknown htrim hshow hchoose]
    rfl

/-- A session gives each line its answer, and there is no other. -/
theorem answers_iff {stage : Stage} {line trimmed : String} {answer : Answer}
    (htrims : TrimsTo line trimmed) : Answers stage trimmed answer ↔ answer = answerTo stage line := by
  refine ⟨eq_answerTo_of_answers htrims, ?_⟩
  rintro rfl
  obtain ⟨answer, hanswer⟩ := exists_answers stage trimmed
  exact eq_answerTo_of_answers htrims hanswer ▸ hanswer

/-! ## Choices -/

/-- Whether a line chooses a stage. -/
def Chooses (line : String) (choice : Stage) : Prop :=
  ∃ command name, TrimsTo line (":" ++ command) ∧ HasWords command.toList ["stage", name] ∧
    EqAnyCase name choice.name

section Choices

variable {stage choice : Stage} {line trimmed : String} {answer : Answer}

theorem Answers.stage_eq_of_chooses (h : Answers stage trimmed answer) (htrims : TrimsTo line trimmed)
    (hchooses : Chooses line choice) : answer.stage = choice := by
  obtain ⟨command, name, hcommand, hwords, hname⟩ := hchooses
  have hchosen : Answers stage (":" ++ command) ⟨s!"Stage set to {choice.name}\n", "", [], choice⟩ :=
    .chosen hwords hname
  rw [(answers_iff htrims).1 h, ← (answers_iff hcommand).1 hchosen]

theorem Answers.stage_eq_of_not_chooses (h : Answers stage trimmed answer)
    (htrims : TrimsTo line trimmed) (hchooses : ∀ choice, ¬ Chooses line choice) :
    answer.stage = stage := by
  cases h with
  | chosen hwords hname => exact absurd ⟨_, _, htrims, hwords, hname⟩ (hchooses _)
  | blank | reported | refused | shown | unknownStage | unknownCommand => rfl

end Choices

end Session

end StraightLine
