import StraightLine.Command.Performance
import StraightLine.Proofs.Report.Indentation
import StraightLine.Proofs.Session.Conversation

/-!
# Lines typed and lines in files

A source that is one line can be typed in a session or put in a file. The session reads it without the
white space at its ends, the file mode with it. Both come to the same report or to the same error, up to
the white space in front of the source, by which the file mode counts columns further to the right.
-/

namespace StraightLine

open Text Token

namespace Session

/-- A line is visible from its first character that is no white space on. -/
theorem exists_toList_trim {line : String} {gap rest : List Char} {c : Char}
    (hline : line.toList = gap ++ c :: rest) (hgap : Blank gap) (hvisible : isWhiteSpace c = false) :
    ∃ others, (trim line).toList = c :: others := by
  obtain ⟨tail, htail, hrest⟩ := exists_trim_append hline hgap (stops_cons.2 hvisible)
  rcases List.append_eq_cons_iff.1 hrest.symm with ⟨-, htail'⟩ | ⟨others, htrim, -⟩
  · have hblank := htail c (htail' ▸ List.mem_cons_self)
    exact absurd hblank (by simp [hvisible])
  · exact ⟨others, htrim⟩

/-- A session on a single line that is a source. -/
theorem converse_source (stage : Stage) {line : String} {c : Char} {others : List Char}
    (htrim : (trim line).toList = c :: others) (hcolon : c ≠ ':') (hfeed : '\n' ∉ line.toList) :
    converse stage (Bytes.ofText (line ++ "\n")).lines =
      let reply := (Line.source (trim line)).reply stage
      { out := prompt stage ++ reply.out ++ (prompt stage ++ "\n")
        err := reply.err
        finished := true
        events := reply.run.events ++ [.inputClosed stage] } := by
  have hblank : trim line ≠ "" := by
    intro hempty
    rw [hempty] at htrim
    cases htrim
  have hsource : ∀ command, trim line ≠ ":" ++ command := by
    intro command heq
    rw [heq, toList_colon_append] at htrim
    exact hcolon (List.cons.inj htrim).1.symm
  have hlines : lines (line ++ "\n") = [line] := by
    have htext : (line ++ "\n").toList = line.toList ++ '\n' :: [] := String.toList_append
    rw [lines, htext, linesBy_line hfeed]
    exact congrArg (· :: []) String.ofList_toList
  rw [Bytes.lines_ofText, hlines, List.map_singleton, converse_cons, answerTo,
    Line.ofText_source hblank hsource]
  simp [converse, turn, Turn.transcript, Line.reply]

theorem converse_source_of_ok {stage : Stage} {line text : String} {c : Char} {others : List Char}
    (htrim : (trim line).toList = c :: others) (hcolon : c ≠ ':') (hfeed : '\n' ∉ line.toList)
    (h : (report stage (trim line)).outcome = .ok text) :
    converse stage (Bytes.ofText (line ++ "\n")).lines =
      ⟨prompt stage ++ text ++ (prompt stage ++ "\n"), "", true,
        (report stage (trim line)).events ++ [.inputClosed stage]⟩ := by
  have houtcome : ((Line.source (trim line)).reply stage).run.outcome = .ok text := by
    rw [Line.reply, Run.mapError, h]
    rfl
  rw [converse_source stage htrim hcolon hfeed]
  simp only [Reply.out, Reply.err, houtcome]
  rfl

theorem converse_source_of_error {stage : Stage} {line : String} {e : RunError} {c : Char}
    {others : List Char} (htrim : (trim line).toList = c :: others) (hcolon : c ≠ ':')
    (hfeed : '\n' ∉ line.toList) (h : (report stage (trim line)).outcome = .error e) :
    converse stage (Bytes.ofText (line ++ "\n")).lines =
      ⟨prompt stage ++ "" ++ (prompt stage ++ "\n"), e.message ++ "\n", true,
        (report stage (trim line)).events ++ [.inputClosed stage]⟩ := by
  have houtcome : ((Line.source (trim line)).reply stage).run.outcome = .error (.run e) := by
    rw [Line.reply, Run.mapError, h]
    rfl
  rw [converse_source stage htrim hcolon hfeed]
  simp only [Reply.out, Reply.err, houtcome]
  rfl

end Session

namespace Command

section File

variable {stage : Stage} {path source : String} {read? : String → Option Bytes}
  (hread : read? path = some (.ofText source)) (input : Bytes)

include hread

theorem reportFile_eq : reportFile stage path (read? path) = (report stage source).mapError .run := by
  have htext : (Bytes.ofText source).text? = some source := Bytes.text?_eq_some_iff.2 rfl
  rw [reportFile, hread, Option.bind_some, htext]

theorem perform_report_of_ok {text : String} (h : (report stage source).outcome = .ok text) :
    (Task.report stage path).perform read? input =
      ⟨.success, text, "", (report stage source).events⟩ := by
  simp only [Task.perform, reportFile_eq hread, Run.mapError, h, Except.mapError]

theorem perform_report_of_error {e : RunError} (h : (report stage source).outcome = .error e) :
    (Task.report stage path).perform read? input =
      ⟨.failure, "", path ++ ": " ++ e.message ++ "\n", (report stage source).events⟩ := by
  simp only [Task.perform, reportFile_eq hread, Run.mapError, h, Except.mapError]
  rfl

end File

/-- A session on a line that is a source succeeds exactly if the file mode succeeds on a file with that
line. The reports are the same, except that tokens stand further to the right in the file by the white
space in front of them, and so are the errors, except that the columns in them are larger by as much. -/
theorem session_agrees_with_file (stage : Stage) {line path : String} {gap rest : List Char} {c : Char}
    (hline : line.toList = gap ++ c :: rest) (hgap : Blank gap) (hvisible : isWhiteSpace c = false)
    (hcolon : c ≠ ':') (hfeed : '\n' ∉ line.toList) {read? : String → Option Bytes}
    (hread : read? path = some (.ofText line)) (input : Bytes) :
    let session := Session.converse stage (Bytes.ofText (line ++ "\n")).lines
    let file := (Task.report stage path).perform read? input
    session.finished = true ∧ (session.err = "" ↔ file.status = .success) ∧
      ((∃ text, (report stage (trim line)).outcome = .ok text ∧ file.status = .success ∧
          file.err = "" ∧
          session.out = Session.prompt stage ++ text ++ (Session.prompt stage ++ "\n") ∧
          (stage ≠ .tokens → file.out = text) ∧
          (stage = .tokens → ∃ tokens, (Lexer.ofSource (trim line)).tokenize = .ok tokens ∧
            text = listing (tokens.map Token.render) ∧
            file.out = listing (tokens.map fun token ↦ (token.relocate (.indent gap)).render))) ∨
        ∃ e, (report stage (trim line)).outcome = .error e ∧ file.status = .failure ∧
          file.out = "" ∧ session.out = Session.prompt stage ++ (Session.prompt stage ++ "\n") ∧
          session.err = e.message ++ "\n" ∧
          file.err = path ++ ": " ++ (e.indent gap).message ++ "\n" ∧
          (gap = [] ∨ (∃ faults, e = .semantic faults) → file.err = path ++ ": " ++ session.err)) := by
  intro session file
  have hrest : Stops isWhiteSpace (c :: rest) := stops_cons.2 hvisible
  obtain ⟨others, htrim⟩ := Session.exists_toList_trim hline hgap hvisible
  cases houtcome : (report stage (trim line)).outcome with
  | ok text =>
    have hsession : session = _ := Session.converse_source_of_ok htrim hcolon hfeed houtcome
    obtain ⟨tokens, htokens, htext, hmoved⟩ :=
      outcome_report_of_trim_ok hline hgap hrest hfeed houtcome
    have hfile : file = _ := perform_report_of_ok hread input hmoved
    rw [hsession, hfile]
    refine ⟨rfl, by simp, .inl ⟨text, rfl, rfl, rfl, rfl, fun hstage ↦ if_neg hstage, fun hstage ↦ ?_⟩⟩
    exact ⟨tokens, htokens, htext hstage, if_pos hstage⟩
  | error e =>
    have hsession : session = _ := Session.converse_source_of_error htrim hcolon hfeed houtcome
    have hmoved := outcome_report_of_trim_error hline hgap hrest hfeed houtcome
    have hfile : file = _ := perform_report_of_error hread input hmoved
    rw [hsession, hfile]
    refine ⟨rfl, by simp, .inr ⟨e, rfl, rfl, rfl, ?_, rfl, rfl, ?_⟩⟩
    · rw [String.append_empty]
    · intro hsame
      have hindent : e.indent gap = e := by
        rcases hsame with rfl | ⟨faults, rfl⟩
        · exact e.indent_nil
        · rfl
      rw [hindent]
      exact String.append_assoc

/-- An incomplete statement behind a space and an em space: where the tokens end is two columns further
to the right in a file. -/
theorem session_agrees_with_file_on_indented_line :
    (Session.converse .parse (Bytes.ofText (" \u2003x = 1" ++ "\n")).lines).err =
        "Parse error: line 1, column 6: Unexpected end of input, expected SEMICOLON\n" ∧
      ((Task.report .parse "a.txt").perform (fun _ ↦ some (.ofText " \u2003x = 1")) []).err =
        "a.txt: Parse error: line 1, column 8: Unexpected end of input, expected SEMICOLON\n" := by
  let e : RunError := .syntactic (.endOfInput (.token .semicolon) ⟨5, 1, 6⟩)
  have houtcome : (report .parse (trim " \u2003x = 1")).outcome = .error e := by decide +kernel
  have hline : " \u2003x = 1".toList = [' ', '\u2003'] ++ 'x' :: [' ', '=', ' ', '1'] := by decide
  obtain ⟨-, -, ⟨text, htext, -⟩ | ⟨e', he', -, -, -, hsession, hfile, -⟩⟩ :=
    @session_agrees_with_file .parse " \u2003x = 1" "a.txt" _ _ 'x' hline (by decide) (by decide)
      (by decide) (by decide) (fun _ ↦ some (.ofText " \u2003x = 1")) rfl []
  · cases htext.symm.trans houtcome
  · obtain rfl : e' = e := Except.error.inj (he'.symm.trans houtcome)
    exact ⟨hsession.trans (by decide), hfile.trans (by decide)⟩

end Command

end StraightLine
