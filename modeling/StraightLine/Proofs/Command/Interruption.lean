import StraightLine.Command.Performance
import StraightLine.Proofs.Session.Conversation

/-!
# Sessions that are cut off

The input of a session is cut into lines before any of them is read as text. A line that is not text ends
the session right where it would have been answered: behind the prompt that follows the lines before it.
Neither the bytes of that line nor those behind it leave a trace in what the session writes.
-/

namespace StraightLine

namespace Text

section Cut

variable {α : Type} [DecidableEq α] {feed : α}

/-- Whether some items are the first line of a sequence whose other items are given: they reach up to the
item that ends a line, or there is none and the sequence ends with them. -/
inductive IsFirstLine (feed : α) : List α → List α → Prop
  | ended {body later : List α} (hbody : feed ∉ body) : IsFirstLine feed (body ++ [feed]) later
  | last {line : List α} (hne : line ≠ []) (hline : feed ∉ line) : IsFirstLine feed line []

/-- Cutting a sequence into lines begins with its first line, which loses the item that ends it. -/
theorem IsFirstLine.linesBy_append {line later : List α} (h : IsFirstLine feed line later) :
    ∃ body, linesBy feed (line ++ later) = body :: linesBy feed later ∧
      (line = body ∨ line = body ++ [feed]) := by
  cases h with
  | @ended body _ hbody =>
    refine ⟨body, ?_, .inr rfl⟩
    rw [List.append_assoc, List.singleton_append, linesBy_line hbody]
  | last hne hline =>
    refine ⟨line, ?_, .inl rfl⟩
    rw [List.append_nil, linesBy_of_not_mem feed hne hline]
    rfl

end Cut

/-- The line feed is a character of its own, so that a line is text with it if it is text without it. -/
theorem Bytes.text?_append_lineFeed {body : Bytes} {text : String} (h : body.text? = some text) :
    (body ++ [lineFeed]).text? = some (text ++ "\n") := by
  rw [text?_eq_some_iff] at h ⊢
  rw [h, ofText, ofText, String.toList_append, List.flatMap_append]
  rfl

/-- A first line that is not text is not text without the line feed either. -/
theorem IsFirstLine.lines_append {line later : Bytes} (h : IsFirstLine lineFeed line later)
    (hinvalid : line.text? = none) :
    ∃ body, (line ++ later).lines = body :: later.lines ∧ body.text? = none := by
  obtain ⟨body, hlines, hline⟩ := h.linesBy_append
  refine ⟨body, by rw [Bytes.lines_eq_linesBy, hlines, ← Bytes.lines_eq_linesBy], ?_⟩
  rcases hline with rfl | rfl
  · exact hinvalid
  · by_contra hsome
    obtain ⟨text, htext⟩ := Option.ne_none_iff_exists'.1 hsome
    cases hinvalid.symm.trans (Bytes.text?_append_lineFeed htext)

end Text

open Text

namespace Session

/-- At a line that is not text a session has asked for it and says no more. -/
theorem converse_of_text?_eq_none (stage : Stage) {line : Bytes} (h : line.text? = none)
    (later : List Bytes) : converse stage (line :: later) = ⟨prompt stage, "", false, []⟩ := by
  simp [converse, turn, h, Turn.transcript]

/-- A session that is cut off behind some lines writes what the session on these lines does, but for the
line feed at its end. -/
theorem Conversation.converse_interrupted {stage last : Stage} {lines : List String}
    {answers : List Answer} (h : Conversation stage lines answers last) {line : Bytes}
    (hline : line.text? = none) (later : List Bytes) :
    let front := converse stage (lines.map .ofText)
    let whole := converse stage (lines.map .ofText ++ line :: later)
    whole.finished = false ∧ front.finished = true ∧ front.out = whole.out ++ "\n" ∧
      front.err = whole.err := by
  obtain ⟨body, -, htranscript⟩ := h.converse_append
  obtain ⟨hfront, hfrontErr, hfrontFinished, -⟩ := htranscript []
  obtain ⟨hwhole, hwholeErr, hwholeFinished, -⟩ := htranscript (line :: later)
  rw [List.append_nil] at hfront hfrontErr hfrontFinished
  rw [converse_of_text?_eq_none last hline] at hwhole hwholeErr hwholeFinished
  refine ⟨hwholeFinished, hfrontFinished, ?_, hfrontErr.trans hwholeErr.symm⟩
  rw [hfront, hwhole]
  exact String.append_assoc.symm

end Session

namespace Command

/-- A session is interrupted by the first line that is not text. What it has written by then is what the
session on the lines before that one writes, without the line feed that closes it, and depends on nothing
that follows them. -/
theorem session_keeps_lines_before_invalid (stage : Stage) {earlier line later : Bytes} {text : String}
    (hearlier : earlier.text? = some text) (hended : IsEnded lineFeed earlier)
    (hline : IsFirstLine lineFeed line later) (hinvalid : line.text? = none)
    (read? : String → Option Bytes) :
    let front := (Task.converse stage).perform read? earlier
    let whole := (Task.converse stage).perform read? (earlier ++ (line ++ later))
    front.status = .success ∧ whole.status = .interrupted ∧ front.out = whole.out ++ "\n" ∧
      front.err = whole.err := by
  obtain rfl := Bytes.text?_eq_some_iff.1 hearlier
  obtain ⟨body, hlines, hbody⟩ := hline.lines_append hinvalid
  obtain ⟨answers, last, hconversation⟩ := Session.exists_conversation stage (lines text)
  obtain ⟨hwhole, hfront, hout, herr⟩ := hconversation.converse_interrupted hbody later.lines
  rw [← Bytes.lines_ofText] at hwhole hfront hout herr
  simp only [Task.perform, Bytes.lines_append hended, hlines]
  exact ⟨if_pos hfront, if_neg (by simp [hwhole]), hout, herr⟩

/-- A line feed in the middle of a character: the session stops at the stage chosen before. -/
theorem session_keeps_lines_before_half_character :
    let earlier := Bytes.ofText "x = 1;\n:stage ir\n"
    let whole := (Task.converse .parse).perform (fun _ ↦ none)
      (earlier ++ ([0x79, 0xC3, 0x0A] ++ [0x3A, 0xFF]))
    earlier.text? = some "x = 1;\n:stage ir\n" ∧ IsEnded lineFeed earlier ∧
      IsFirstLine lineFeed [0x79, 0xC3, 0x0A] [0x3A, 0xFF] ∧ Bytes.text? [0x79, 0xC3, 0x0A] = none ∧
      whole.status = .interrupted ∧
      whole.out = "parse> (= x 1)\nParse OK\nparse> Stage set to ir\nir> " ∧ whole.err = "" := by
  intro earlier whole
  have htext : earlier.text? = some "x = 1;\n:stage ir\n" := Bytes.text?_eq_some_iff.2 rfl
  have hended : IsEnded lineFeed earlier := .inr (by decide +kernel)
  have hline : IsFirstLine lineFeed [0x79, 0xC3, 0x0A] [0x3A, 0xFF] :=
    @IsFirstLine.ended _ lineFeed [0x79, 0xC3] _ (by decide)
  have hinvalid : Bytes.text? [0x79, 0xC3, 0x0A] = none := by decide +kernel
  obtain ⟨-, hstatus, hout, herr⟩ :=
    session_keeps_lines_before_invalid .parse htext hended hline hinvalid fun _ ↦ none
  have hfront : ((Task.converse .parse).perform (fun _ ↦ none) earlier).out =
      "parse> (= x 1)\nParse OK\nparse> Stage set to ir\nir> " ++ "\n" := by decide +kernel
  have hfrontErr : ((Task.converse .parse).perform (fun _ ↦ none) earlier).err = "" := by
    decide +kernel
  refine ⟨htext, hended, hline, hinvalid, hstatus, ?_, herr.symm.trans hfrontErr⟩
  exact (String.append_left_inj "\n").1 (hout.symm.trans hfront)

end Command

end StraightLine
