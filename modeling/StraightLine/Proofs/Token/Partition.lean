import StraightLine.Proofs.Token.Reading

/-!
# The partition of a source

A source is cut into white space and lexemes, and nothing else, up to its end or up to a character
that begins no token. The cut is a `Layout`; `exists_layout_of_scan` finds it for what a cursor
scans, and `tokens_partition_source` for what a lexer hands out.
-/

namespace StraightLine.Token

open Text

/-- White space, and the characters of the token behind it. -/
structure Piece where
  gap : List Char
  lexeme : List Char
  blank : Blank gap

def Piece.text (piece : Piece) : List Char :=
  piece.gap ++ piece.lexeme

/-- Pieces one after the other, and the white space behind the last of them. -/
structure Layout where
  pieces : List Piece
  lastGap : List Char
  blank : Blank lastGap

namespace Layout

def text (layout : Layout) : List Char :=
  layout.pieces.flatMap Piece.text ++ layout.lastGap

def lexemes (layout : Layout) : List (List Char) :=
  layout.pieces.map Piece.lexeme

def before (layout : Layout) (index : Nat) : List Char :=
  (layout.pieces.take index).flatMap Piece.text ++
    (layout.pieces[index]?.map Piece.gap).getD layout.lastGap

def cons (piece : Piece) (layout : Layout) : Layout :=
  ⟨piece :: layout.pieces, layout.lastGap, layout.blank⟩

@[simp] theorem text_cons (piece : Piece) (layout : Layout) :
    (layout.cons piece).text = piece.text ++ layout.text := by
  simp [text, cons]

@[simp] theorem lexemes_cons (piece : Piece) (layout : Layout) :
    (layout.cons piece).lexemes = piece.lexeme :: layout.lexemes := rfl

@[simp] theorem before_cons_zero (piece : Piece) (layout : Layout) :
    (layout.cons piece).before 0 = piece.gap := rfl

@[simp] theorem before_cons_succ (piece : Piece) (layout : Layout) (index : Nat) :
    (layout.cons piece).before (index + 1) = piece.text ++ layout.before index := by
  simp [before, cons]

end Layout

/-- Whether a token is spelled as its kind wants and stands right behind a text. -/
structure StandsBehind (token : Token) (text : List Char) : Prop where
  nonempty : token.lexeme ≠ ""
  spells : token.kind.pattern.Spells token.lexeme.toList
  place : token.position = .ofText text

/-- What a cursor scans behind a text is a layout, and a tail if there is an unknown character. -/
theorem exists_layout_of_scan (cursor : Cursor) (text : List Char)
    (hplace : cursor.position = .ofText text) :
    ∃ (layout : Layout) (tail : List Char),
      cursor.rest = layout.text ++ tail ∧
      (cursor.scan grammar).items.map (·.lexeme.toList) = layout.lexemes ∧
      (∀ index (h : index < (cursor.scan grammar).items.length),
        StandsBehind (cursor.scan grammar).items[index] (text ++ layout.before index)) ∧
      ((cursor.scan grammar).failure? = none → tail = []) ∧
      ∀ e, (cursor.scan grammar).failure? = some e →
        tail.head? = some e.character ∧ e.position = .ofText (text ++ layout.text) := by
  fun_induction cursor.scan grammar generalizing text with
  | case1 cursor hnext =>
    cases Cursor.step_iff.2 hnext with
    | @ended place gap hgap =>
      exact ⟨⟨[], gap, hgap⟩, [], by simp [Layout.text], rfl, by simp, by simp, by simp⟩
  | case2 cursor e hnext =>
    cases Cursor.step_iff.2 hnext with
    | @unknown place gap rest c hgap =>
      refine ⟨⟨[], gap, hgap⟩, c :: rest, by simp [Layout.text], rfl, by simp, by simp, ?_⟩
      intro e he
      cases he
      simp only at hplace
      exact ⟨rfl, by simp [Layout.text, hplace, Position.advanceOver_ofText]⟩
  | case3 cursor token after hnext hshorter ih =>
    cases Cursor.step_iff.2 hnext with
    | @token place gap rest token hgap htoken hfits =>
      simp only at hplace
      obtain ⟨hposition, hstop⟩ := hfits.places hplace htoken
      obtain ⟨layout, tail, hrest, hlexemes, htokens, hnone, hsome⟩ := ih _ hstop
      refine ⟨layout.cons ⟨gap, token.lexeme.toList, hgap⟩, tail, ?_, ?_, ?_, hnone, ?_⟩
      · simp only at hrest
        simp [Piece.text, hrest]
      · simp [hlexemes]
      · intro index hindex
        cases index with
        | zero =>
          refine ⟨?_, hfits.spells, hposition⟩
          intro hempty
          exact hfits.ne_nil (String.toList_eq_nil_iff.2 hempty)
        | succ index =>
          have hlater := htokens index (by simpa using hindex)
          simpa [Piece.text] using hlater
      · intro e he
        have hlater := hsome e he
        simpa [Piece.text] using hlater

/-- A lexer takes a source apart into white space and tokens, one after the other and without a
rest, unless it meets a character at which no token begins. -/
theorem tokens_partition_source (source : String) :
    ∃ (layout : Layout) (tokens : List Token) (failure? : Option UnknownCharacter)
      (tail : List Char),
      (∀ count, ((Lexer.ofSource source).after count).next.1 =
        (tokens.map .ok ++ (failure?.map .error).toList)[count]?) ∧
      source.toList = layout.text ++ tail ∧
      tokens.map (·.lexeme.toList) = layout.lexemes ∧
      (∀ index (h : index < tokens.length),
        tokens[index].lexeme ≠ "" ∧
        (∃ rule ∈ grammar, rule.kind = tokens[index].kind ∧
          rule.pattern.Spells tokens[index].lexeme.toList) ∧
        tokens[index].position.offset = (String.ofList (layout.before index)).utf8ByteSize) ∧
      (failure? = none → tail = [] ∧ (Lexer.ofSource source).tokenize = .ok tokens) ∧
      ∀ e, failure? = some e →
        tail.head? = some e.character ∧
        e.position.offset = (String.ofList layout.text).utf8ByteSize ∧
        (Lexer.ofSource source).tokenize = .error e := by
  obtain ⟨layout, tail, htext, hlexemes, htokens, hnone, hsome⟩ :=
    exists_layout_of_scan (.start source) [] rfl
  refine ⟨layout, _, _, tail, Lexer.next_after _, htext, hlexemes, ?_, ?_, ?_⟩
  · intro index hindex
    obtain ⟨hnonempty, hspells, hplace⟩ := htokens index hindex
    refine ⟨hnonempty, ⟨⟨_, _⟩, mem_grammar_iff.2 rfl, rfl, hspells⟩, ?_⟩
    exact congrArg Position.offset hplace
  · intro hfailure
    exact ⟨hnone hfailure, Attempt.toExcept_eq_ok_iff.2 ⟨hfailure, rfl⟩⟩
  · intro e hfailure
    obtain ⟨hhead, hplace⟩ := hsome e hfailure
    exact ⟨hhead, congrArg Position.offset hplace, Attempt.toExcept_eq_error_iff.2 hfailure⟩

end StraightLine.Token
