import StraightLine.Proofs.Program.Relocation
import StraightLine.Proofs.Token.Spacing

/-!
# Sources joined by white space

What a lexer makes of a source does not depend on what follows behind white space, and what follows is
read as if it stood alone, except that everything in it has moved. `scan_append` is the first half and
`scan_relocate` the second; `tokens_across_gap` says what they come to for two sources with a gap
between them.
-/

namespace StraightLine

/-! ## Attempts one after the other -/

namespace Attempt

variable {α ε : Type}

/-- The attempt that goes on with another one unless something stopped it. -/
def andThen (attempt later : Attempt α ε) : Attempt α ε :=
  match attempt.failure? with
  | none => ⟨attempt.items ++ later.items, later.failure?⟩
  | some _ => attempt

@[simp] theorem andThen_finished_left (later : Attempt α ε) : finished.andThen later = later := rfl

@[simp] theorem andThen_failed (e : ε) (later : Attempt α ε) :
    (failed e).andThen later = failed e := rfl

@[simp] theorem andThen_cons (a : α) (attempt later : Attempt α ε) :
    (attempt.cons a).andThen later = (attempt.andThen later).cons a := by
  obtain ⟨items, failure?⟩ := attempt
  cases failure? <;> rfl

@[simp] theorem andThen_finished (attempt : Attempt α ε) : attempt.andThen finished = attempt := by
  obtain ⟨items, failure?⟩ := attempt
  cases failure? with
  | none => exact congrArg (Attempt.mk · none) (List.append_nil items)
  | some e => rfl

theorem toExcept_andThen (attempt later : Attempt α ε) :
    (attempt.andThen later).toExcept =
      attempt.toExcept.bind fun items ↦ later.toExcept.map (items ++ ·) := by
  obtain ⟨items, failure?⟩ := attempt
  obtain ⟨others, otherFailure?⟩ := later
  cases failure? <;> cases otherFailure? <;> rfl

end Attempt

/-! ## Positions behind a text -/

namespace Position

/-- Where a position is when its text is put behind another one. The offset grows by the bytes of that
text and the line by its line feeds; a column grows on the first line alone, by what the other text has
behind its last line feed. -/
def behind (front : List Char) (p : Position) : Position where
  offset := p.offset + (String.ofList front).utf8ByteSize
  line := p.line + front.count '\n'
  column := if p.line = 1 then p.column + (front.rtakeWhile (· ≠ '\n')).length else p.column

theorem advance_behind (front : List Char) {p : Position} (h : p.line ≠ 0) (c : Char) :
    (p.behind front).advance c = (p.advance c).behind front := by
  by_cases hc : c = '\n'
  · subst hc
    simp only [advance, behind, if_true, mk.injEq]
    refine ⟨by omega, by omega, ?_⟩
    rw [if_neg (by omega)]
  · simp only [advance, behind, if_neg hc, mk.injEq, true_and]
    refine ⟨by omega, ?_⟩
    split <;> omega

/-- The counted position in a text that stands behind another one. -/
theorem ofText_append (front text : List Char) : ofText (front ++ text) = (ofText text).behind front := by
  induction text using List.reverseRecOn with
  | nil =>
    simp only [ofText, behind, List.append_nil, mk.injEq]
    simp
  | append_singleton text c ih =>
    have hline : (ofText text).line ≠ 0 := by
      simp only [ofText]
      omega
    rw [← List.append_assoc, ofText_concat, ofText_concat, ih, advance_behind front hline]

theorem behind_start (front : List Char) : start.behind front = ofText front := by
  rw [← ofText_nil, ← ofText_append, List.append_nil]

theorem advanceOver_start (text : List Char) : start.advanceOver text = ofText text := by
  rw [← ofText_nil, advanceOver_ofText, List.nil_append]

/-- Whether a function moves the places in a text along with the place of its front. -/
def MovesAlong (f : Position → Position) (place : Position) (text : List Char) : Prop :=
  ∀ front, front <+: text → f (place.advanceOver front) = (f place).advanceOver front

theorem MovesAlong.advanceOver {f : Position → Position} {place : Position} {front rest : List Char}
    (h : MovesAlong f place (front ++ rest)) : MovesAlong f (place.advanceOver front) rest := by
  intro middle hmiddle
  have hfront := h front (List.prefix_append front rest)
  have hboth := h (front ++ middle) ((List.prefix_append_right_inj front).2 hmiddle)
  rw [advanceOver_append, advanceOver_append] at hboth
  rw [hboth, hfront]

theorem movesAlong_behind (front text : List Char) : MovesAlong (behind front) start text := by
  intro before _
  rw [advanceOver_start, ← ofText_append, behind_start, advanceOver_ofText]

end Position

namespace Token

open Text

def UnknownCharacter.relocate (f : Position → Position) (e : UnknownCharacter) : UnknownCharacter :=
  { e with position := f e.position }

/-! ## Text that is followed by white space -/

theorem fraction_append {text later : List Char} (h : Pattern.fraction text = [])
    (hlater : BeginsLike later []) (hdigit : Stops Char.isDigit later) :
    Pattern.fraction (text ++ later) = [] := by
  rw [Pattern.fraction_eq_nil_iff] at h ⊢
  intro rest htext
  cases text with
  | nil =>
    rw [List.nil_append] at htext
    subst htext
    rcases hlater '.' rfl with hblank | hnone
    · exact absurd hblank (by decide)
    · cases hnone
  | cons c text =>
    obtain ⟨rfl, rfl⟩ := List.cons.inj htext
    exact stops_append (h text rfl) hdigit

/-- A token that fits in front of a text fits as well when white space or nothing follows the text. -/
theorem Fits.append {kind : Kind} {lexeme rest later : List Char} (h : Fits kind lexeme rest)
    (hlater : BeginsLike later []) : Fits kind lexeme (rest ++ later) where
  spells := h.spells
  ends := by
    have hends := h.ends
    have hstops {p : Char → Bool} (hspace : ∀ c, isWhiteSpace c = true → p c = false) :
        Stops p later := stops_of_beginsLike stops_nil hlater hspace
    cases kind with
    | keyword =>
      exact stops_append hends (hstops fun _ ↦ isWordCharacter_eq_false_of_isWhiteSpace)
    | identifier =>
      exact stops_append hends (hstops fun _ ↦ isNameCharacter_eq_false_of_isWhiteSpace)
    | number =>
      have hdigit : Stops Char.isDigit later := hstops fun c hc ↦
        (isNameCharacter_eq_false_iff.1 (isNameCharacter_eq_false_of_isWhiteSpace hc)).2
      refine ⟨stops_append hends.1 hdigit, hends.2.imp_right fun hfraction ↦ ?_⟩
      exact fraction_append hfraction hlater hdigit
    | assign | operator | semicolon | leftParen | rightParen => trivial
  unreserved := by
    intro hkind hreserved
    exact h.unreserved hkind ⟨hreserved.1, stops_of_append hreserved.2⟩

namespace Cursor

theorem scan_congr {cursor other : Cursor} (h : cursor.next? grammar = other.next? grammar) :
    cursor.scan grammar = other.scan grammar := by
  cases hother : other.next? grammar with
  | none => rw [scan_eq_finished (h.trans hother), scan_eq_finished hother]
  | some result =>
    cases result with
    | error e => rw [scan_eq_failed (h.trans hother), scan_eq_failed hother]
    | ok found => rw [scan_eq_cons (h.trans hother), scan_eq_cons hother]

/-- White space at the front of a text moves the cursor and does nothing else. -/
theorem scan_blank_append (place : Position) {gap : List Char} (hgap : Blank gap) (text : List Char) :
    scan grammar ⟨place, gap ++ text⟩ = scan grammar ⟨place.advanceOver gap, text⟩ := by
  have hskip : skipSpace ⟨place, gap ++ text⟩ = skipSpace ⟨place.advanceOver gap, text⟩ := by
    simp only [skipSpace, past, List.takeWhile_append_of_pos hgap, Position.advanceOver_append,
      List.length_append, ← List.drop_drop, List.drop_left]
  apply scan_congr
  simp only [next?, hskip]

/-- A text is scanned as if it stood alone when white space or nothing follows it, and then what follows
is scanned. -/
theorem scan_append (cursor : Cursor) {later : List Char} (hlater : BeginsLike later []) :
    scan grammar ⟨cursor.position, cursor.rest ++ later⟩ =
      (cursor.scan grammar).andThen
        (scan grammar ⟨cursor.position.advanceOver cursor.rest, later⟩) := by
  fun_induction cursor.scan grammar with
  | case1 cursor hnext =>
    cases step_iff.2 hnext with
    | ended hgap =>
      rw [Attempt.andThen_finished_left]
      exact scan_blank_append _ hgap later
  | case2 cursor e hnext =>
    cases step_iff.2 hnext with
    | @unknown place gap rest c hgap hvisible hfirst =>
      rw [Attempt.andThen_failed, List.append_assoc, List.cons_append]
      exact scan_eq_failed (step_iff.1 (.unknown hgap hvisible hfirst))
  | case3 cursor token after hnext hshorter ih =>
    cases step_iff.2 hnext with
    | @token place gap rest token hgap htoken hfits =>
      have hstop : token.stop.advanceOver rest =
          place.advanceOver (gap ++ (token.lexeme.toList ++ rest)) := by
        rw [hfits.stop_eq, htoken, Position.advanceOver_append, Position.advanceOver_append]
      have hstep := step_iff.1 (Step.token hgap htoken (hfits.append hlater))
      simp only [List.append_assoc] at hstop ⊢
      rw [scan_eq_cons hstep, ih, hstop, Attempt.andThen_cons]

/-- A text is scanned in the same way wherever it stands: its tokens move along with its front. -/
theorem scan_relocate {f : Position → Position} (cursor : Cursor)
    (hf : Position.MovesAlong f cursor.position cursor.rest) :
    scan grammar ⟨f cursor.position, cursor.rest⟩ =
      (cursor.scan grammar).map (Token.relocate f) (UnknownCharacter.relocate f) := by
  fun_induction cursor.scan grammar with
  | case1 cursor hnext =>
    cases step_iff.2 hnext with
    | ended hgap => exact scan_eq_finished (next?_of_blank _ hgap)
  | case2 cursor e hnext =>
    cases step_iff.2 hnext with
    | @unknown place gap rest c hgap hvisible hfirst =>
      have hplace := hf gap (List.prefix_append gap (c :: rest))
      have hstep := step_iff.1 (@Step.unknown (f place) gap rest c hgap hvisible hfirst)
      rw [scan_eq_failed hstep, Attempt.map_failed, ← hplace]
      rfl
  | case3 cursor token after hnext hshorter ih =>
    cases step_iff.2 hnext with
    | @token place gap rest token hgap htoken hfits =>
      have hplace : f token.position = (f place).advanceOver gap := by
        rw [htoken]
        exact hf gap (List.prefix_append gap _)
      have hlexeme : Position.MovesAlong f token.position (token.lexeme.toList ++ rest) := by
        rw [htoken]
        exact hf.advanceOver
      have hrest : Position.MovesAlong f token.stop rest := by
        rw [hfits.stop_eq]
        exact hlexeme.advanceOver
      have hstop : (token.relocate f).stop = f token.stop := by
        calc
          (token.relocate f).stop = (f token.position).advanceOver token.lexeme.toList :=
              @Fits.stop_eq (token.relocate f) rest hfits
          _ = f (token.position.advanceOver token.lexeme.toList) :=
              (hlexeme _ (List.prefix_append _ rest)).symm
          _ = f token.stop := by rw [hfits.stop_eq]
      have hstep := step_iff.1 (@Step.token (f place) gap rest (token.relocate f) hgap hplace hfits)
      rw [Attempt.map_cons, ← ih hrest, ← hstop]
      exact scan_eq_cons hstep

end Cursor

/-! ## Two sources and a gap -/

namespace Lexer

theorem tokenize_ofSource (source : String) :
    (ofSource source).tokenize = ((Cursor.start source).scan grammar).toExcept := rfl

theorem tokenize_append_gap (source later : String) {gap : String} (hne : gap ≠ "")
    (hgap : Blank gap.toList) :
    let f := Position.behind (source ++ gap).toList
    (ofSource (source ++ gap ++ later)).tokenize =
      (ofSource source).tokenize.bind fun tokens ↦
        (((ofSource later).tokenize.map (List.map (Token.relocate f))).mapError
          (UnknownCharacter.relocate f)).map (tokens ++ ·) := by
  intro f
  have hlike : BeginsLike (gap.toList ++ later.toList) [] :=
    beginsLike_of_gap hgap (fun hnil ↦ hne (String.toList_eq_nil_iff.1 hnil)) _ _
  have hplace : (Position.start.advanceOver source.toList).advanceOver gap.toList = f .start := by
    rw [← Position.advanceOver_append, Position.advanceOver_start, ← String.toList_append]
    exact (Position.behind_start _).symm
  have hscan : (Cursor.start (source ++ gap ++ later)).scan grammar =
      ((Cursor.start source).scan grammar).andThen
        (((Cursor.start later).scan grammar).map (Token.relocate f) (UnknownCharacter.relocate f)) := by
    calc
      (Cursor.start (source ++ gap ++ later)).scan grammar =
          Cursor.scan grammar ⟨.start, source.toList ++ (gap.toList ++ later.toList)⟩ := by
        rw [Cursor.start, String.toList_append, String.toList_append, List.append_assoc]
      _ = ((Cursor.start source).scan grammar).andThen
            (Cursor.scan grammar
              ⟨Position.start.advanceOver source.toList, gap.toList ++ later.toList⟩) :=
          Cursor.scan_append (.start source) hlike
      _ = ((Cursor.start source).scan grammar).andThen
            (Cursor.scan grammar ⟨f .start, later.toList⟩) := by
        rw [Cursor.scan_blank_append _ hgap, hplace]
      _ = _ := by
        rw [← Cursor.scan_relocate (.start later) (Position.movesAlong_behind _ _)]
        rfl
  rw [tokenize_ofSource, hscan, Attempt.toExcept_andThen, Attempt.toExcept_map]
  rfl

/-- White space separates two sources: an error of the first is the error of both together, and otherwise
the tokens of both together are those of the first and then those of the second, or the error of the
second, moved behind the first and the gap. -/
theorem tokens_across_gap (source later : String) {gap : String} (hne : gap ≠ "")
    (hgap : Blank gap.toList) :
    (∀ e, (ofSource source).tokenize = .error e →
      (ofSource (source ++ gap ++ later)).tokenize = .error e) ∧
    ∀ tokens, (ofSource source).tokenize = .ok tokens →
      (∀ others, (ofSource later).tokenize = .ok others →
        (ofSource (source ++ gap ++ later)).tokenize =
          .ok (tokens ++ others.map (Token.relocate (.behind (source ++ gap).toList)))) ∧
      ∀ e, (ofSource later).tokenize = .error e →
        (ofSource (source ++ gap ++ later)).tokenize =
          .error (e.relocate (.behind (source ++ gap).toList)) := by
  rw [tokenize_append_gap source later hne hgap]
  refine ⟨fun e he ↦ ?_, fun tokens htokens ↦ ⟨fun others hothers ↦ ?_, fun e he ↦ ?_⟩⟩
  · rw [he]
    rfl
  · rw [htokens, hothers]
    rfl
  · rw [htokens, he]
    rfl

/-- Behind a line feed and a space, the tokens of the first line move to the right and those of the
second only downwards. -/
theorem tokens_across_gap_of_two_lines :
    "\n " ≠ "" ∧ Blank "\n ".toList ∧
      (ofSource ("x =" ++ "\n " ++ "1.5;\nif")).tokenize =
        .ok [⟨.identifier, "x", ⟨0, 1, 1⟩⟩, ⟨.assign, "=", ⟨2, 1, 3⟩⟩, ⟨.number, "1.5", ⟨5, 2, 2⟩⟩,
          ⟨.semicolon, ";", ⟨8, 2, 5⟩⟩, ⟨.keyword, "if", ⟨10, 3, 1⟩⟩] ∧
      (ofSource ("x =" ++ "\n " ++ "1.;\nif")).tokenize = .error ⟨'.', ⟨6, 2, 3⟩⟩ ∧
      (ofSource ("x = 1." ++ "\n " ++ "5")).tokenize = .error ⟨'.', ⟨5, 1, 6⟩⟩ := by
  have hne : "\n " ≠ "" := by decide
  have hgap : Blank "\n ".toList := by decide
  have hfirst : (ofSource "x =").tokenize =
      .ok [⟨.identifier, "x", ⟨0, 1, 1⟩⟩, ⟨.assign, "=", ⟨2, 1, 3⟩⟩] := by decide +kernel
  have hsecond : (ofSource "1.5;\nif").tokenize =
      .ok [⟨.number, "1.5", ⟨0, 1, 1⟩⟩, ⟨.semicolon, ";", ⟨3, 1, 4⟩⟩, ⟨.keyword, "if", ⟨5, 2, 1⟩⟩] := by
    decide +kernel
  have hpoint : (ofSource "1.;\nif").tokenize = .error ⟨'.', ⟨1, 1, 2⟩⟩ := by decide +kernel
  have hend : (ofSource "x = 1.").tokenize = .error ⟨'.', ⟨5, 1, 6⟩⟩ := by decide +kernel
  refine ⟨hne, hgap, ?_, ?_, (tokens_across_gap "x = 1." "5" hne hgap).1 _ hend⟩
  · exact ((tokens_across_gap "x =" "1.5;\nif" hne hgap).2 _ hfirst).1 _ hsecond
  · exact ((tokens_across_gap "x =" "1.;\nif" hne hgap).2 _ hfirst).2 _ hpoint

end Lexer

end Token

end StraightLine
