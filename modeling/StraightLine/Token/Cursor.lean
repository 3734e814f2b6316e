import StraightLine.Attempt
import StraightLine.Token.Grammar
import StraightLine.Text.WhiteSpace

/-!
# Reading tokens

A cursor stands in a source: it knows its position and the text that follows. Reading on from a
cursor skips white space and takes the text that the grammar finds next. When no rule matches, the
character in the way is an error and nothing after it is read.
-/

namespace StraightLine.Token

/-- A place in a source and the text from there on. -/
structure Cursor where
  position : Position
  rest : List Char
deriving DecidableEq

/-- A character at which no token begins. -/
structure UnknownCharacter where
  character : Char
  position : Position
deriving DecidableEq

def UnknownCharacter.message (e : UnknownCharacter) : String :=
  s!"{e.position.render}: Unknown character '{e.character}'"

namespace Cursor

def start (source : String) : Cursor :=
  ⟨.start, source.toList⟩

def past (cursor : Cursor) (characters : List Char) : Cursor :=
  ⟨cursor.position.advanceOver characters, cursor.rest.drop characters.length⟩

def skipSpace (cursor : Cursor) : Cursor :=
  cursor.past (cursor.rest.takeWhile Text.isWhiteSpace)

/-- The token that begins right at the cursor, and the cursor past it. -/
def token? (grammar : Grammar) (cursor : Cursor) : Option (Token × Cursor) :=
  (grammar.match? cursor.rest).map fun (kind, lexeme) ↦
    let token : Token := ⟨kind, .ofList lexeme, cursor.position⟩
    (token, ⟨token.stop, cursor.rest.drop lexeme.length⟩)

/-- The next token after white space with the cursor past it, or the character in its place. There
is neither when only white space is left. -/
def next? (grammar : Grammar) (cursor : Cursor) :
    Option (Except UnknownCharacter (Token × Cursor)) :=
  match cursor.skipSpace.rest with
  | [] => none
  | c :: _ =>
    match cursor.skipSpace.token? grammar with
    | some found => some (.ok found)
    | none => some (.error ⟨c, cursor.skipSpace.position⟩)

theorem length_rest_skipSpace_le (cursor : Cursor) :
    cursor.skipSpace.rest.length ≤ cursor.rest.length := by
  simp [skipSpace, past]

theorem length_rest_lt_of_token? {grammar : Grammar} {cursor after : Cursor} {token : Token}
    (hrest : cursor.rest ≠ []) (h : cursor.token? grammar = some (token, after)) :
    after.rest.length < cursor.rest.length := by
  obtain ⟨⟨kind, lexeme⟩, hmatch, hpair⟩ := Option.map_eq_some_iff.1 h
  cases hpair
  have hlexeme := List.length_pos_iff.2 (Grammar.match?_ne_nil hmatch)
  have hlength := List.length_pos_iff.2 hrest
  simp only [List.length_drop]
  omega

theorem length_rest_lt_of_next? {grammar : Grammar} {cursor after : Cursor} {token : Token}
    (h : cursor.next? grammar = some (.ok (token, after))) :
    after.rest.length < cursor.rest.length := by
  have hskip := cursor.length_rest_skipSpace_le
  simp only [next?] at h
  split at h
  · cases h
  · next c text hrest =>
    split at h
    · next found htoken =>
      cases h
      have hlt := length_rest_lt_of_token? (by simp [hrest]) htoken
      omega
    · cases h

/-- The tokens from the cursor on, up to the end of the source or a character that begins none. -/
def scan (grammar : Grammar) (cursor : Cursor) : Attempt Token UnknownCharacter :=
  match h : cursor.next? grammar with
  | none => .finished
  | some (.error e) => .failed e
  | some (.ok (token, after)) =>
    have := length_rest_lt_of_next? h
    (scan grammar after).cons token
termination_by cursor.rest.length

theorem scan_eq_finished {grammar : Grammar} {cursor : Cursor}
    (h : cursor.next? grammar = none) : cursor.scan grammar = .finished := by
  rw [scan]
  split <;> simp_all

theorem scan_eq_failed {grammar : Grammar} {cursor : Cursor} {e : UnknownCharacter}
    (h : cursor.next? grammar = some (.error e)) : cursor.scan grammar = .failed e := by
  rw [scan]
  split <;> simp_all

theorem scan_eq_cons {grammar : Grammar} {cursor after : Cursor} {token : Token}
    (h : cursor.next? grammar = some (.ok (token, after))) :
    cursor.scan grammar = (after.scan grammar).cons token := by
  rw [scan]
  split <;> simp_all

end Cursor

end StraightLine.Token
