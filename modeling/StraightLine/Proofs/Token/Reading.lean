import StraightLine.Proofs.Position
import StraightLine.Proofs.Token.Match
import StraightLine.Token.Lexer

/-!
# Reading step by step

`Step` lists what reading on from a cursor can come to, each case with all that is known in it, and
`step_iff` says that this is what `Cursor.next?` does. `Answer` does the same for a lexer that is
asked for the next thing. What a lexer hands out is then what its cursor scans, thing by thing:
`next_after`.
-/

namespace StraightLine

namespace Attempt

variable {α ε : Type}

def results (attempt : Attempt α ε) : List (Except ε α) :=
  attempt.items.map .ok ++ (attempt.failure?.map .error).toList

@[simp] theorem results_finished : (finished : Attempt α ε).results = [] := rfl

@[simp] theorem results_failed (e : ε) : (failed e : Attempt α ε).results = [.error e] := rfl

@[simp] theorem results_cons (a : α) (attempt : Attempt α ε) :
    (attempt.cons a).results = .ok a :: attempt.results := rfl

theorem items_eq_filterMap_results (attempt : Attempt α ε) :
    attempt.items = attempt.results.filterMap Except.toOption := by
  obtain ⟨items, failure?⟩ := attempt
  cases failure? <;> simp [results, Except.toOption, Function.comp_def]

theorem failure?_eq_head?_results (attempt : Attempt α ε) :
    attempt.failure? = (attempt.results.filterMap fun | .ok _ => none | .error e => some e).head? := by
  obtain ⟨items, failure?⟩ := attempt
  cases failure? <;> simp [results]

theorem results_injective : Function.Injective (results : Attempt α ε → List (Except ε α)) := by
  intro attempt other h
  calc
    attempt = ⟨attempt.items, attempt.failure?⟩ := rfl
    _ = ⟨other.items, other.failure?⟩ := by
      rw [items_eq_filterMap_results, failure?_eq_head?_results, h, ← items_eq_filterMap_results,
        ← failure?_eq_head?_results]
    _ = other := rfl

theorem results_eq_map_ok_iff {attempt : Attempt α ε} {items : List α} :
    attempt.results = items.map .ok ↔ attempt = ⟨items, none⟩ := by
  have hresults : items.map Except.ok = (Attempt.mk items (none : Option ε)).results :=
    (List.append_nil _).symm
  rw [hresults, results_injective.eq_iff]

theorem results_eq_fault_iff {attempt : Attempt α ε} {items : List α} {e : ε} :
    attempt.results = items.map .ok ++ [.error e] ↔ attempt = ⟨items, some e⟩ :=
  results_injective.eq_iff' rfl

end Attempt

namespace Token

open Text

theorem Fits.stops_isWhiteSpace {kind : Kind} {lexeme rest : List Char}
    (h : Fits kind lexeme rest) (text : List Char) : Stops isWhiteSpace (lexeme ++ text) := by
  obtain ⟨c, others, rfl⟩ := List.exists_cons_of_ne_nil h.ne_nil
  rw [List.cons_append, stops_cons]
  by_contra hspace
  have hnone := Kind.ofFirst?_eq_none_of_isWhiteSpace (by simpa using hspace)
  exact Kind.ofFirst?_ne_none_of_spells h.spells hnone

/-- The text of a token lies on one line, so that the place past it is found like any other. -/
theorem stop_eq_of_spells {token : Token} (h : token.kind.pattern.Spells token.lexeme.toList) :
    token.stop = token.position.advanceOver token.lexeme.toList := by
  have hline : '\n' ∉ token.lexeme.toList := by
    intro hmem
    have hvisible := Kind.isWhiteSpace_eq_false_of_mem h hmem
    exact absurd hvisible (by decide)
  rw [Position.advanceOver_of_not_mem hline, String.ofList_toList, String.length_toList]
  rfl

theorem Fits.stop_eq {token : Token} {rest : List Char}
    (h : Fits token.kind token.lexeme.toList rest) :
    token.stop = token.position.advanceOver token.lexeme.toList :=
  stop_eq_of_spells h.spells

/-- Behind a text whose end has its counted position, a token has its counted positions as well. -/
theorem Fits.places {token : Token} {rest before gap : List Char} {place : Position}
    (h : Fits token.kind token.lexeme.toList rest) (hplace : place = .ofText before)
    (htoken : token.position = place.advanceOver gap) :
    token.position = .ofText (before ++ gap) ∧
      token.stop = .ofText (before ++ gap ++ token.lexeme.toList) := by
  have hposition : token.position = .ofText (before ++ gap) := by
    rw [htoken, hplace, Position.advanceOver_ofText]
  refine ⟨hposition, ?_⟩
  rw [h.stop_eq, hposition, Position.advanceOver_ofText]

/-- What reading on from a cursor comes to: nothing but white space is left, or white space and then
a character that begins no token, or white space and then a token. -/
inductive Step : Cursor → Option (Except UnknownCharacter (Token × Cursor)) → Prop
  | ended {place : Position} {gap : List Char} (hgap : Blank gap) : Step ⟨place, gap⟩ none
  | unknown {place : Position} {gap rest : List Char} {c : Char} (hgap : Blank gap)
      (hvisible : isWhiteSpace c = false) (hfirst : Kind.ofFirst? c = none) :
      Step ⟨place, gap ++ c :: rest⟩ (some (.error ⟨c, place.advanceOver gap⟩))
  | token {place : Position} {gap rest : List Char} {token : Token} (hgap : Blank gap)
      (hplace : token.position = place.advanceOver gap)
      (hfits : Fits token.kind token.lexeme.toList rest) :
      Step ⟨place, gap ++ (token.lexeme.toList ++ rest)⟩ (some (.ok (token, ⟨token.stop, rest⟩)))

namespace Cursor

/-- Skipping white space leads behind the blank front of the text. -/
theorem skipSpace_append (place : Position) {gap text : List Char} (hgap : Blank gap)
    (htext : Stops isWhiteSpace text) :
    skipSpace ⟨place, gap ++ text⟩ = ⟨place.advanceOver gap, text⟩ := by
  rw [skipSpace, takeWhile_append_of_stops hgap htext, past, List.drop_left]

theorem next?_of_blank (place : Position) {gap : List Char} (hgap : Blank gap) :
    next? grammar ⟨place, gap⟩ = none := by
  have hskip := skipSpace_append place hgap stops_nil
  rw [List.append_nil] at hskip
  simp only [next?, hskip]

theorem next?_of_match?_eq_none {place : Position} {gap rest : List Char} {c : Char}
    (hgap : Blank gap) (hvisible : isWhiteSpace c = false)
    (hnone : grammar.match? (c :: rest) = none) :
    next? grammar ⟨place, gap ++ c :: rest⟩ = some (.error ⟨c, place.advanceOver gap⟩) := by
  have hstop : Stops isWhiteSpace (c :: rest) := stops_cons.2 hvisible
  have hskip := skipSpace_append place hgap hstop
  simp only [next?, hskip, token?, hnone, Option.map_none]

theorem next?_of_match?_eq_some (place : Position) {gap lexeme rest : List Char} {kind : Kind}
    (hgap : Blank gap) (hvisible : Stops isWhiteSpace (lexeme ++ rest))
    (hsome : grammar.match? (lexeme ++ rest) = some (kind, lexeme)) :
    let token : Token := ⟨kind, .ofList lexeme, place.advanceOver gap⟩
    next? grammar ⟨place, gap ++ (lexeme ++ rest)⟩ = some (.ok (token, ⟨token.stop, rest⟩)) := by
  obtain ⟨c, others, hcons⟩ := List.exists_cons_of_ne_nil (Grammar.match?_ne_nil hsome)
  have hskip := skipSpace_append place hgap hvisible
  simp only [next?, hskip, token?, hsome, Option.map_some, List.drop_left]
  rw [hcons, List.cons_append]

theorem step_next? (cursor : Cursor) : Step cursor (cursor.next? grammar) := by
  obtain ⟨place, text⟩ := cursor
  have htext := List.takeWhile_append_dropWhile (p := isWhiteSpace) (l := text)
  have hgap := blank_takeWhile text
  have hstop := stops_dropWhile isWhiteSpace text
  generalize text.takeWhile isWhiteSpace = gap at htext hgap
  generalize text.dropWhile isWhiteSpace = visible at htext hstop
  subst htext
  cases visible with
  | nil =>
    rw [List.append_nil, next?_of_blank place hgap]
    exact .ended hgap
  | cons c rest =>
    cases hmatch : grammar.match? (c :: rest) with
    | none =>
      rw [next?_of_match?_eq_none hgap (stops_cons.1 hstop) hmatch]
      exact .unknown hgap (stops_cons.1 hstop) (match?_eq_none_iff.1 hmatch)
    | some found =>
      obtain ⟨kind, lexeme⟩ := found
      obtain ⟨rest', hrest, hfits⟩ := match?_eq_some_iff.1 hmatch
      rw [hrest] at hstop hmatch ⊢
      rw [next?_of_match?_eq_some place hgap hstop hmatch]
      have hspelled : Fits kind (String.ofList lexeme).toList rest' := by
        rwa [String.toList_ofList]
      have hstep := @Step.token place gap rest' ⟨kind, .ofList lexeme, place.advanceOver gap⟩
        hgap rfl hspelled
      rwa [String.toList_ofList] at hstep

/-- The cases of `Step` are the ways in which a cursor reads on. -/
theorem step_iff {cursor : Cursor} {result : Option (Except UnknownCharacter (Token × Cursor))} :
    Step cursor result ↔ cursor.next? grammar = result := by
  constructor
  · intro hstep
    cases hstep with
    | ended hgap => exact next?_of_blank _ hgap
    | unknown hgap hvisible hfirst =>
      exact next?_of_match?_eq_none hgap hvisible (match?_eq_none_iff.2 hfirst)
    | @token place gap rest token hgap hplace hfits =>
      obtain ⟨kind, lexeme, position⟩ := token
      simp only at hplace hfits ⊢
      subst hplace
      have hmatch := match?_eq_some_iff.2 ⟨rest, rfl, hfits⟩
      have hnext := next?_of_match?_eq_some place hgap (hfits.stops_isWhiteSpace rest) hmatch
      rwa [String.ofList_toList] at hnext
  · intro hresult
    subst hresult
    exact step_next? cursor

end Cursor

namespace Lexer

/-- What asking a lexer for the next thing comes to. -/
inductive Answer : Lexer → Option (Except UnknownCharacter Token) × Lexer → Prop
  | exhausted {cursor : Cursor} : Answer ⟨cursor, true⟩ (none, ⟨cursor, true⟩)
  | ended {place : Position} {gap : List Char} (hgap : Blank gap) :
      Answer ⟨⟨place, gap⟩, false⟩ (none, ⟨⟨place.advanceOver gap, []⟩, false⟩)
  | unknown {place : Position} {gap rest : List Char} {c : Char} (hgap : Blank gap)
      (hvisible : isWhiteSpace c = false) (hfirst : Kind.ofFirst? c = none) :
      Answer ⟨⟨place, gap ++ c :: rest⟩, false⟩
        (some (.error ⟨c, place.advanceOver gap⟩), ⟨⟨place.advanceOver gap, c :: rest⟩, true⟩)
  | token {place : Position} {gap rest : List Char} {token : Token} (hgap : Blank gap)
      (hplace : token.position = place.advanceOver gap)
      (hfits : Fits token.kind token.lexeme.toList rest) :
      Answer ⟨⟨place, gap ++ (token.lexeme.toList ++ rest)⟩, false⟩
        (some (.ok token), ⟨⟨token.stop, rest⟩, false⟩)

theorem answer_next (lexer : Lexer) : Answer lexer lexer.next := by
  obtain ⟨cursor, failed⟩ := lexer
  cases failed with
  | true => exact .exhausted
  | false =>
    generalize hresult : cursor.next? grammar = result
    cases Cursor.step_iff.2 hresult with
    | @ended place gap hgap =>
      have hskip := Cursor.skipSpace_append place hgap stops_nil
      rw [List.append_nil] at hskip
      simp only [next, hresult, hskip, Bool.false_eq_true, if_false]
      exact .ended hgap
    | @unknown place gap rest c hgap hvisible hfirst =>
      have hstop : Stops isWhiteSpace (c :: rest) := stops_cons.2 hvisible
      have hskip := Cursor.skipSpace_append place hgap hstop
      simp only [next, hresult, hskip, Bool.false_eq_true, if_false]
      exact .unknown hgap hvisible hfirst
    | token hgap hplace hfits =>
      simp only [next, hresult, Bool.false_eq_true, if_false]
      exact .token hgap hplace hfits

/-- A lexer hands out the first of the things that it will hand out, and then the others. -/
theorem next_eq (lexer : Lexer) :
    lexer.next.1 = lexer.remaining.results.head? ∧
      lexer.next.2.remaining.results = lexer.remaining.results.tail := by
  have hanswer := answer_next lexer
  generalize lexer.next = result at hanswer
  cases hanswer with
  | exhausted => exact ⟨rfl, rfl⟩
  | ended hgap =>
    simp [remaining, Cursor.scan_eq_finished (Cursor.next?_of_blank _ hgap),
      Cursor.scan_eq_finished (Cursor.next?_of_blank _ blank_nil)]
  | unknown hgap hvisible hfirst =>
    simp [remaining, Cursor.scan_eq_failed (Cursor.step_iff.1 (.unknown hgap hvisible hfirst))]
  | token hgap hplace hfits =>
    simp [remaining, Cursor.scan_eq_cons (Cursor.step_iff.1 (.token hgap hplace hfits))]

theorem results_after (lexer : Lexer) (count : Nat) :
    (lexer.after count).remaining.results = lexer.remaining.results.drop count := by
  induction count generalizing lexer with
  | zero => rfl
  | succ count ih => rw [after, ih, (next_eq lexer).2, List.drop_tail]

/-- What a lexer hands out at a given time is what stands at that place in the scan of its cursor. -/
theorem next_after (lexer : Lexer) (count : Nat) :
    (lexer.after count).next.1 = lexer.remaining.results[count]? := by
  rw [(next_eq _).1, results_after, List.head?_drop]

/-- The tokens that a lexer finds at once are handed out one after the other. -/
theorem exists_next_of_mem_remaining {lexer : Lexer} {token : Token}
    (h : token ∈ lexer.remaining.items) :
    ∃ count, (lexer.after count).next.1 = some (.ok token) := by
  have hresult : .ok token ∈ lexer.remaining.results :=
    List.mem_append_left _ (List.mem_map_of_mem h)
  obtain ⟨count, hcount⟩ := List.mem_iff_getElem?.1 hresult
  exact ⟨count, (next_after lexer count).trans hcount⟩

end Lexer

end Token

end StraightLine
