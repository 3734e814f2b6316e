import StraightLine.Proofs.Token.Partition

/-!
# White space between tokens

White space may be put between the tokens of a source, taken away from there or replaced, as long as
tokens that were apart stay apart: `scan_of_respaces` says that the tokens remain what they were. The
reason is that the one character behind a token decides where the token ends, and that white space
decides for the same end as the first character of the token that followed.
-/

namespace StraightLine.Token

open Text

/-- What a token is, wherever it stands. -/
def spelling (token : Token) : Kind × String :=
  (token.kind, token.lexeme)

/-! ## The character behind a token -/

/-- Whether a text is empty, or begins with white space or with a character that begins a token. -/
def CutsOff (rest : List Char) : Prop :=
  ∀ c ∈ rest.head?, isWhiteSpace c = true ∨ Kind.ofFirst? c ≠ none

/-- Whether a text is empty, or begins with white space or with the same character as another. -/
def BeginsLike (text other : List Char) : Prop :=
  ∀ c ∈ text.head?, isWhiteSpace c = true ∨ c ∈ other.head?

theorem beginsLike_of_gap {gap : List Char} (hgap : Blank gap) (hne : gap ≠ [])
    (text other : List Char) : BeginsLike (gap ++ text) other := by
  obtain ⟨c, gap, rfl⟩ := List.exists_cons_of_ne_nil hne
  intro d hd
  cases hd
  exact .inl (hgap c List.mem_cons_self)

theorem beginsLike_append {front : List Char} (hne : front ≠ []) (text other : List Char) :
    BeginsLike (front ++ text) (front ++ other) := by
  obtain ⟨c, front, rfl⟩ := List.exists_cons_of_ne_nil hne
  intro d hd
  exact .inr hd

/-- A class without white space stops where it stopped before. -/
theorem stops_of_beginsLike {p : Char → Bool} {text other : List Char} (h : Stops p other)
    (hlike : BeginsLike text other) (hspace : ∀ c, isWhiteSpace c = true → p c = false) :
    Stops p text := by
  intro c hc
  rcases hlike c hc with hblank | hother
  · exact hspace c hblank
  · exact h c hother

/-- Behind a name, the word characters stop along with the name characters. -/
theorem CutsOff.stops_isWordCharacter {rest : List Char} (h : CutsOff rest)
    (hname : Stops isNameCharacter rest) : Stops isWordCharacter rest := by
  intro c hc
  rcases h c hc with hblank | hfirst
  · exact isWordCharacter_eq_false_of_isWhiteSpace hblank
  · rcases Kind.ofFirst?_ne_none_iff.1 hfirst with hc' | hmark
    · rw [hname c hc] at hc'
      cases hc'
    · exact (classes_of_mem_marks hmark).2

/-- No fraction follows where a token is cut off: neither white space nor a token begins with a
point. -/
theorem CutsOff.fraction_eq_nil {text other : List Char} (h : CutsOff other)
    (hlike : BeginsLike text other) : Pattern.fraction text = [] := by
  rw [Pattern.fraction_eq_nil_iff]
  intro rest htext
  subst htext
  rcases hlike '.' rfl with hblank | hother
  · exact absurd hblank (by decide)
  · rcases h '.' hother with hblank | hfirst
    · exact absurd hblank (by decide)
    · exact absurd hfirst (by decide)

/-- A token fits as well in front of any text that begins like the one behind it. -/
theorem Fits.of_beginsLike {kind : Kind} {lexeme rest text : List Char} (h : Fits kind lexeme rest)
    (hrest : CutsOff rest) (hlike : BeginsLike text rest) : Fits kind lexeme text where
  spells := h.spells
  ends := by
    have hends := h.ends
    cases kind with
    | keyword =>
      exact stops_of_beginsLike hends hlike fun _ ↦ isWordCharacter_eq_false_of_isWhiteSpace
    | identifier =>
      exact stops_of_beginsLike hends hlike fun _ ↦ isNameCharacter_eq_false_of_isWhiteSpace
    | number =>
      refine ⟨stops_of_beginsLike hends.1 hlike fun c hc ↦ ?_, .inr (hrest.fraction_eq_nil hlike)⟩
      exact (isNameCharacter_eq_false_iff.1 (isNameCharacter_eq_false_of_isWhiteSpace hc)).2
    | assign | operator | semicolon | leftParen | rightParen => trivial
  unreserved := by
    intro hkind hreserved
    subst hkind
    exact h.unreserved rfl ⟨hreserved.1, hrest.stops_isWordCharacter h.ends⟩

/-! ## Scans without an error -/

theorem exists_fits_of_mem_scan {cursor : Cursor} {token : Token}
    (h : token ∈ (cursor.scan grammar).items) :
    ∃ rest, Fits token.kind token.lexeme.toList rest := by
  fun_induction cursor.scan grammar with
  | case1 => cases h
  | case2 => cases h
  | case3 cursor first after hnext hshorter ih =>
    rcases List.mem_cons.1 h with rfl | hlater
    · cases Cursor.step_iff.2 hnext with
      | token _ _ hfits => exact ⟨_, hfits⟩
    · exact ih hlater

theorem ne_nil_of_mem_lexemes {cursor : Cursor} {lexeme : List Char}
    (h : lexeme ∈ (cursor.scan grammar).items.map (·.lexeme.toList)) : lexeme ≠ [] := by
  obtain ⟨token, htoken, rfl⟩ := List.mem_map.1 h
  obtain ⟨rest, hfits⟩ := exists_fits_of_mem_scan htoken
  exact hfits.ne_nil

/-- Where a scan meets no unknown character, it begins with white space or with a token. -/
theorem cutsOff_of_scan {cursor : Cursor} (h : (cursor.scan grammar).failure? = none) :
    CutsOff cursor.rest := by
  intro c hc
  generalize hresult : cursor.next? grammar = result
  cases Cursor.step_iff.2 hresult with
  | @ended place gap hgap => exact .inl (hgap c (List.mem_of_mem_head? hc))
  | unknown => simp [Cursor.scan_eq_failed hresult] at h
  | @token place gap rest token hgap hplace hfits =>
    cases gap with
    | cons d gap =>
      cases hc
      exact .inl (hgap c List.mem_cons_self)
    | nil =>
      have hspells := hfits.spells
      obtain ⟨d, others, hcons⟩ := List.exists_cons_of_ne_nil hfits.ne_nil
      rw [hcons] at hspells hc
      cases hc
      exact .inr (Kind.ofFirst?_ne_none_of_spells hspells)

/-! ## Layouts -/

namespace Layout

/-- Whether a layout has the lexemes of another, and white space between two of them wherever the
other has some. -/
structure Respaces (layout original : Layout) : Prop where
  lexemes : layout.lexemes = original.lexemes
  apart : ∀ pair ∈ (layout.pieces.zip original.pieces).tail, pair.2.gap ≠ [] → pair.1.gap ≠ []

instance (layout original : Layout) : Decidable (layout.Respaces original) :=
  decidable_of_iff
    (layout.lexemes = original.lexemes ∧
      ∀ pair ∈ (layout.pieces.zip original.pieces).tail, pair.2.gap ≠ [] → pair.1.gap ≠ [])
    ⟨fun h ↦ ⟨h.1, h.2⟩, fun h ↦ ⟨h.lexemes, h.apart⟩⟩

theorem exists_cons_of_lexemes {layout : Layout} {lexeme : List Char}
    {lexemes : List (List Char)} (h : layout.lexemes = lexeme :: lexemes) :
    ∃ (piece : Piece) (rest : Layout),
      layout = rest.cons piece ∧ piece.lexeme = lexeme ∧ rest.lexemes = lexemes := by
  obtain ⟨pieces, lastGap, hlastGap⟩ := layout
  cases pieces with
  | nil => cases h
  | cons piece pieces =>
    obtain ⟨hlexeme, hlexemes⟩ := List.cons.inj h
    exact ⟨piece, ⟨pieces, lastGap, hlastGap⟩, rfl, hlexeme, hlexemes⟩

theorem blank_text_of_lexemes {layout : Layout} (h : layout.lexemes = []) :
    Blank layout.text := by
  have hpieces : layout.pieces = [] := List.map_eq_nil_iff.1 h
  rw [text, hpieces]
  exact layout.blank

theorem Respaces.of_cons {layout original : Layout} {piece originalPiece : Piece}
    (h : (layout.cons piece).Respaces (original.cons originalPiece)) :
    layout.Respaces original where
  lexemes := (List.cons.inj h.lexemes).2
  apart := fun pair hpair ↦ h.apart pair (List.mem_of_mem_tail hpair)

/-- What follows the first lexeme begins like what followed it. -/
theorem Respaces.beginsLike {layout original : Layout} {piece originalPiece : Piece}
    (h : (layout.cons piece).Respaces (original.cons originalPiece))
    (hlexemes : ∀ lexeme ∈ original.lexemes, lexeme ≠ []) :
    BeginsLike layout.text original.text := by
  have hsame := h.of_cons.lexemes
  cases hnext : original.lexemes with
  | nil =>
    rw [hnext] at hsame
    intro c hc
    exact .inl (blank_text_of_lexemes hsame c (List.mem_of_mem_head? hc))
  | cons lexeme others =>
    rw [hnext] at hsame hlexemes
    obtain ⟨first, layout, rfl, hfirst, -⟩ := exists_cons_of_lexemes hsame
    obtain ⟨originalFirst, original, rfl, horiginalFirst, -⟩ := exists_cons_of_lexemes hnext
    rw [text_cons, text_cons, Piece.text, Piece.text, hfirst, horiginalFirst]
    by_cases hgap : first.gap = []
    · have horiginalGap : originalFirst.gap = [] := by
        by_contra hne
        exact h.apart (first, originalFirst) List.mem_cons_self hne hgap
      rw [hgap, horiginalGap, List.nil_append]
      exact beginsLike_append (hlexemes lexeme List.mem_cons_self) _ _
    · rw [List.append_assoc]
      exact beginsLike_of_gap first.blank hgap _ _

end Layout

/-- A source with its white space changed has the same tokens, wherever they now stand. -/
theorem scan_of_respaces {cursor : Cursor} {layout original : Layout} (place : Position)
    (hrest : cursor.rest = original.text) (hscan : (cursor.scan grammar).failure? = none)
    (hlexemes : (cursor.scan grammar).items.map (·.lexeme.toList) = original.lexemes)
    (hlayout : layout.Respaces original) :
    ((Cursor.mk place layout.text).scan grammar).failure? = none ∧
      ((Cursor.mk place layout.text).scan grammar).items.map spelling =
        (cursor.scan grammar).items.map spelling := by
  fun_induction cursor.scan grammar generalizing layout original place with
  | case1 cursor hnext =>
    have hnone : layout.lexemes = [] := hlayout.lexemes.trans hlexemes.symm
    have hended := Cursor.next?_of_blank place (Layout.blank_text_of_lexemes hnone)
    rw [Cursor.scan_eq_finished hended]
    exact ⟨rfl, rfl⟩
  | case2 cursor e hnext => cases hscan
  | case3 cursor token after hnext hshorter ih =>
    obtain ⟨originalPiece, original, rfl, horiginalPiece, horiginal⟩ :=
      Layout.exists_cons_of_lexemes hlexemes.symm
    obtain ⟨piece, layout, rfl, hpiece, -⟩ :=
      Layout.exists_cons_of_lexemes (hlayout.lexemes.trans hlexemes.symm)
    cases Cursor.step_iff.2 hnext with
    | @token oldPlace gap rest token hgap htoken hfits =>
      simp only [Layout.text_cons, Piece.text, horiginalPiece, List.append_assoc] at hrest
      -- The first gap is the white space at the front, since no lexeme begins with any.
      obtain ⟨-, hcut⟩ := Pattern.eq_of_append_eq_append hgap (hfits.stops_isWhiteSpace rest)
        originalPiece.blank (hfits.stops_isWhiteSpace original.text) hrest
      have hrest' : rest = original.text := List.append_cancel_left hcut
      have hlike : BeginsLike layout.text rest := by
        rw [hrest']
        apply hlayout.beginsLike
        intro lexeme hlexeme
        rw [horiginal] at hlexeme
        exact ne_nil_of_mem_lexemes hlexeme
      let moved : Token := ⟨token.kind, token.lexeme, place.advanceOver piece.gap⟩
      have hmoved : Fits moved.kind moved.lexeme.toList layout.text :=
        hfits.of_beginsLike (cutsOff_of_scan hscan) hlike
      have hstep := Cursor.step_iff.1 (@Step.token place _ _ moved piece.blank rfl hmoved)
      obtain ⟨hfailure, hitems⟩ := ih moved.stop hrest' hscan horiginal.symm hlayout.of_cons
      rw [Layout.text_cons, Piece.text, hpiece, List.append_assoc, Cursor.scan_eq_cons hstep]
      exact ⟨hfailure, congrArg (spelling token :: ·) hitems⟩

end StraightLine.Token
