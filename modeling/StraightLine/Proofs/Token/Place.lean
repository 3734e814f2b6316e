import StraightLine.Proofs.Token.Reading

/-!
# The places of tokens

However often a lexer is asked for the next thing, its cursor stands at the counted position of what
has been read, and so does everything that it hands out. The place past a token, which the token
finds from its text alone, is the counted one as well, and it is the place of the next thing unless
there is white space between the two.
-/

namespace StraightLine.Token

open Text

def place : Except UnknownCharacter Token → Position
  | .ok token => token.position
  | .error e => e.position

namespace Lexer

/-- Whether a lexer has read a given text of a source and knows where it is. -/
structure Tracks (source : String) (lexer : Lexer) (consumed : List Char) : Prop where
  text : source.toList = consumed ++ lexer.cursor.rest
  place : lexer.cursor.position = .ofText consumed

theorem tracks_ofSource (source : String) : Tracks source (ofSource source) [] :=
  ⟨rfl, Position.ofText_nil.symm⟩

/-- Asked for the next thing, a lexer reads on behind what it has read, and knows where it is then.
A thing that it hands out stands behind white space. -/
theorem Tracks.next {source : String} {lexer : Lexer} {consumed : List Char}
    (h : Tracks source lexer consumed) :
    (∃ read, Tracks source lexer.next.2 (consumed ++ read)) ∧
      ∀ item, lexer.next.1 = some item →
        ∃ gap rest, source.toList = consumed ++ gap ++ rest ∧ Blank gap ∧
          Token.place item = .ofText (consumed ++ gap) := by
  obtain ⟨htext, hplace⟩ := h
  have hanswer := answer_next lexer
  generalize lexer.next = result at hanswer
  cases hanswer with
  | exhausted => exact ⟨⟨[], by simpa using htext, by simpa using hplace⟩, by simp⟩
  | @ended place gap hgap =>
    simp only at htext hplace
    refine ⟨⟨gap, ?_, ?_⟩, by simp⟩
    · simp [htext]
    · simp [hplace, Position.advanceOver_ofText]
  | @unknown place gap rest c hgap hvisible hfirst =>
    simp only at htext hplace
    have hbehind : place.advanceOver gap = .ofText (consumed ++ gap) := by
      rw [hplace, Position.advanceOver_ofText]
    refine ⟨⟨gap, ?_, hbehind⟩, ?_⟩
    · simp [htext]
    · intro item hitem
      cases hitem
      exact ⟨gap, c :: rest, by simp [htext], hgap, hbehind⟩
  | @token place gap rest token hgap htoken hfits =>
    simp only at htext hplace
    obtain ⟨hbehind, hstop⟩ := hfits.places hplace htoken
    refine ⟨⟨gap ++ token.lexeme.toList, ?_, ?_⟩, ?_⟩
    · simp [htext]
    · rw [hstop, List.append_assoc]
    · intro item hitem
      cases hitem
      exact ⟨gap, token.lexeme.toList ++ rest, by simp [htext], hgap, hbehind⟩

theorem exists_tracks_after {source : String} {lexer : Lexer} {consumed : List Char}
    (h : Tracks source lexer consumed) (count : Nat) :
    ∃ read, Tracks source (lexer.after count) (consumed ++ read) := by
  induction count generalizing lexer consumed with
  | zero =>
    refine ⟨[], ?_⟩
    rw [List.append_nil]
    exact h
  | succ count ih =>
    obtain ⟨first, hfirst⟩ := h.next.1
    obtain ⟨others, hothers⟩ := ih hfirst
    refine ⟨first ++ others, ?_⟩
    rw [← List.append_assoc]
    exact hothers

/-- When a lexer hands out a token, it has read up to the end of it. -/
theorem Tracks.next_token {source : String} {lexer : Lexer} {consumed : List Char} {token : Token}
    (h : Tracks source lexer consumed) (htoken : lexer.next.1 = some (.ok token)) :
    ∃ gap rest, source.toList = consumed ++ gap ++ token.lexeme.toList ++ rest ∧
      token.position = .ofText (consumed ++ gap) ∧
      token.stop = .ofText (consumed ++ gap ++ token.lexeme.toList) ∧
      lexer.next.2 = ⟨⟨token.stop, rest⟩, false⟩ := by
  obtain ⟨htext, hplace⟩ := h
  have hanswer := answer_next lexer
  generalize lexer.next = result at hanswer htoken
  cases hanswer with
  | exhausted | ended | unknown => cases htoken
  | @token place gap rest token hgap hposition hfits =>
    cases htoken
    simp only at htext hplace
    obtain ⟨hbehind, hstop⟩ := hfits.places hplace hposition
    exact ⟨gap, rest, by simp [htext], hbehind, hstop, rfl⟩

/-- At any time the cursor of a lexer and all that the lexer hands out have their counted places, and
a token ends at the place of the next thing, or before it if there is white space between them. -/
theorem places_are_counted (source : String) (count : Nat) :
    ∃ consumed : List Char,
      source.toList = consumed ++ ((ofSource source).after count).cursor.rest ∧
      ((ofSource source).after count).cursor.position = .ofText consumed ∧
      (∀ item, ((ofSource source).after count).next.1 = some item →
        ∃ gap rest, source.toList = consumed ++ gap ++ rest ∧ Blank gap ∧
          Token.place item = .ofText (consumed ++ gap)) ∧
      ∀ token, ((ofSource source).after count).next.1 = some (.ok token) →
        ∃ before rest, source.toList = before ++ token.lexeme.toList ++ rest ∧
          token.position = .ofText before ∧
          token.stop = .ofText (before ++ token.lexeme.toList) ∧
          ∀ item, ((ofSource source).after count).next.2.next.1 = some item →
            ∃ gap later, rest = gap ++ later ∧ Blank gap ∧
              Token.place item = .ofText (before ++ token.lexeme.toList ++ gap) ∧
              token.stop ≤ Token.place item ∧
              (token.stop = Token.place item ↔ gap = []) := by
  obtain ⟨consumed, hconsumed⟩ := exists_tracks_after (tracks_ofSource source) count
  rw [List.nil_append] at hconsumed
  refine ⟨consumed, hconsumed.text, hconsumed.place, hconsumed.next.2, ?_⟩
  intro token htoken
  obtain ⟨gap, rest, htext, hplace, hstop, hnext⟩ := hconsumed.next_token htoken
  have hpast : Tracks source ((ofSource source).after count).next.2
      (consumed ++ gap ++ token.lexeme.toList) := by
    rw [hnext]
    exact ⟨htext, hstop⟩
  refine ⟨consumed ++ gap, rest, htext, hplace, hstop, ?_⟩
  intro item hitem
  obtain ⟨between, later, hlater, hbetween, hitemPlace⟩ := hpast.next.2 item hitem
  rw [htext, List.append_assoc _ between, List.append_cancel_left_eq] at hlater
  have hmoved : Token.place item = token.stop.advanceOver between := by
    rw [hitemPlace, hstop, Position.advanceOver_ofText]
  refine ⟨between, later, hlater, hbetween, hitemPlace, ?_, ?_⟩
  · rw [hmoved]
    exact Position.le_advanceOver _ _
  · rw [hmoved, eq_comm]
    exact Position.advanceOver_eq_self_iff

end Lexer

end StraightLine.Token
