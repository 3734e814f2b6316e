import StraightLine.Proofs.Token.Reading

/-!
# Which sources can be read

Whether a source can be read to its end is a matter of single characters. Only a point has to be
looked at together with its neighbours: it must stand between two runs of digits, the first of which
is a number of its own and neither the end of a name nor a fraction already.
`tokenize_legal` says that a source is read to its end exactly if all its characters are legal where
they stand, and that otherwise the first one that is not is the error.
-/

namespace StraightLine.Token

open Text

/-- Whether a text ends in the digits of a number that can take a fraction. -/
def EndsInWhole (text : List Char) : Prop :=
  text.rtakeWhile Char.isDigit ≠ [] ∧
    ∀ c ∈ (text.rdropWhile Char.isDigit).getLast?, isNameStart c = false ∧ c ≠ '.'

/-- Whether a character can stand between two texts. -/
def Legal (before : List Char) (c : Char) (after : List Char) : Prop :=
  isWhiteSpace c = true ∨ c.isAlphanum = true ∨
    c ∈ ['_', '=', '+', '-', '*', '/', ';', '(', ')'] ∨
    c = '.' ∧ (∃ d ∈ after.head?, d.isDigit = true) ∧ EndsInWhole before

def AllLegal (before text after : List Char) : Prop :=
  ∀ front c back, text = front ++ c :: back → Legal (before ++ front) c (back ++ after)

theorem AllLegal.append {before text later after : List Char}
    (htext : AllLegal before text (later ++ after))
    (hlater : AllLegal (before ++ text) later after) : AllLegal before (text ++ later) after := by
  intro front c back h
  rcases List.append_eq_append_iff.1 h with ⟨middle, rfl, hback⟩ | ⟨middle, hfront, hback⟩
  · have hlegal := hlater middle c back hback
    rwa [List.append_assoc] at hlegal
  · cases middle with
    | nil =>
      rw [List.append_nil] at hfront
      subst hfront
      have hlegal := hlater [] c back hback.symm
      rwa [List.append_nil] at hlegal
    | cons d middle =>
      obtain ⟨rfl, rfl⟩ := List.cons.inj hback
      have hlegal := htext front c middle hfront
      rwa [← List.append_assoc] at hlegal

theorem legal_of_ofFirst?_ne_none {c : Char} (h : Kind.ofFirst? c ≠ none)
    (before after : List Char) : Legal before c after := by
  rcases Kind.ofFirst?_ne_none_iff.1 h with hname | hmark
  · simp only [isNameCharacter, Bool.or_eq_true, decide_eq_true_eq] at hname
    rcases hname with hletter | rfl
    · exact .inr (.inl hletter)
    · exact .inr (.inr (.inl (by decide)))
  · exact .inr (.inr (.inl (List.mem_cons_of_mem _ hmark)))

/-- A character that begins no token and is no white space can only be a legal point. -/
theorem legal_of_ofFirst?_eq_none {c : Char} {before after : List Char}
    (hvisible : isWhiteSpace c = false) (hfirst : Kind.ofFirst? c = none)
    (h : Legal before c after) :
    c = '.' ∧ (∃ d ∈ after.head?, d.isDigit = true) ∧ EndsInWhole before := by
  have hnone := mt Kind.ofFirst?_ne_none_iff.2 (not_not.2 hfirst)
  rw [not_or] at hnone
  rcases h with hspace | hletter | hmark | hpoint
  · rw [hvisible] at hspace
    cases hspace
  · simp [isNameCharacter, hletter] at hnone
  · rcases List.mem_cons.1 hmark with rfl | hmark
    · exact absurd (by decide) hnone.1
    · exact absurd hmark hnone.2
  · exact hpoint

theorem rtakeWhile_append {p : Char → Bool} {text run : List Char} {c : Char} (hc : p c = false)
    (hrun : ∀ d ∈ run, p d = true) : (text ++ c :: run).rtakeWhile p = run := by
  have hreverse : ∀ d ∈ run.reverse, p d = true := fun d hd ↦ hrun d (List.mem_reverse.1 hd)
  have hstop : Stops p (c :: text.reverse) := stops_cons.2 hc
  have htake := takeWhile_append_of_stops hreverse hstop
  simp [List.rtakeWhile, htake]

theorem rdropWhile_append {p : Char → Bool} {text run : List Char} {c : Char} (hc : p c = false)
    (hrun : ∀ d ∈ run, p d = true) : (text ++ c :: run).rdropWhile p = text ++ [c] := by
  have hreverse : ∀ d ∈ run.reverse, p d = true := fun d hd ↦ hrun d (List.mem_reverse.1 hd)
  have hstop : Stops p (c :: text.reverse) := stops_cons.2 hc
  have hdrop := dropWhile_append_of_stops hreverse hstop
  simp [List.rdropWhile, hdrop]

theorem endsInWhole_append {text digits : List Char} {c : Char} (hc : c.isDigit = false)
    (hdigits : ∀ d ∈ digits, d.isDigit = true) :
    EndsInWhole (text ++ c :: digits) ↔ digits ≠ [] ∧ isNameStart c = false ∧ c ≠ '.' := by
  rw [EndsInWhole, rtakeWhile_append hc hdigits, rdropWhile_append hc hdigits]
  simp

theorem endsInWhole_of_isDigits {digits : List Char} (h : Pattern.IsDigits digits) :
    EndsInWhole digits := by
  have htake : digits.rtakeWhile Char.isDigit = digits := List.rtakeWhile_eq_self_iff.2 h.2
  have hdrop : digits.rdropWhile Char.isDigit = [] := List.rdropWhile_eq_nil_iff.2 h.2
  refine ⟨by rw [htake]; exact h.1, ?_⟩
  rw [hdrop]
  simp

/-- What holds where one text has been read and another follows: a number at the front of the other
is not the rest of a longer token, and a fraction there does not belong to a number. -/
structure Boundary (before rest : List Char) : Prop where
  number : ∀ d ∈ rest.head?, d.isDigit = true →
    ∀ c ∈ before.getLast?, isNameCharacter c = false ∧ c ≠ '.'
  point : ∀ after, rest = '.' :: after → (∃ d ∈ after.head?, d.isDigit = true) →
    ¬ EndsInWhole before

theorem boundary_nil (rest : List Char) : Boundary [] rest :=
  ⟨by simp, fun _ _ _ h ↦ h.1 rfl⟩

/-- Behind a character that stands in no name and no number, anything can follow. -/
theorem boundary_concat {text : List Char} {c : Char} (hname : isNameCharacter c = false)
    (hpoint : c ≠ '.') (rest : List Char) : Boundary (text ++ [c]) rest := by
  have hdigit := (isNameCharacter_eq_false_iff.1 hname).2
  refine ⟨fun _ _ _ d hd ↦ ?_, fun _ _ _ h ↦ ?_⟩
  · rw [List.getLast?_concat] at hd
    obtain rfl := Option.some.inj hd
    exact ⟨hname, hpoint⟩
  · exact ((endsInWhole_append hdigit (by simp)).1 h).1 rfl

theorem Boundary.past_gap {before gap rest : List Char} (h : Boundary before (gap ++ rest))
    (hgap : Blank gap) : Boundary (before ++ gap) rest := by
  rcases List.eq_nil_or_concat gap with rfl | ⟨front, c, rfl⟩
  · simpa using h
  · have hspace : isWhiteSpace c = true := hgap c (by simp)
    rw [List.concat_eq_append, ← List.append_assoc]
    apply boundary_concat (isNameCharacter_eq_false_of_isWhiteSpace hspace)
    intro hpoint
    subst hpoint
    exact absurd hspace (by decide)

theorem exists_last_of_mem {p : Char → Bool} {text : List Char} {c : Char} (hmem : c ∈ text)
    (hc : p c = false) :
    ∃ front d run, text = front ++ d :: run ∧ p d = false ∧ ∀ e ∈ run, p e = true := by
  have hsplit := List.rdropWhile_append_rtakeWhile (p := p) (l := text)
  have hkept : text.rdropWhile p ≠ [] := by
    intro hnil
    rw [List.rdropWhile_eq_nil_iff.1 hnil c hmem] at hc
    cases hc
  have hlast := List.rdropWhile_last_not p text hkept
  obtain ⟨front, d, hconcat⟩ := (List.eq_nil_or_concat _).resolve_left hkept
  simp only [hconcat, List.concat_eq_append, List.getLast_append_singleton] at hlast hsplit
  rw [List.append_assoc, List.singleton_append] at hsplit
  exact ⟨front, d, _, hsplit.symm, by simpa using hlast, fun e he ↦ List.mem_rtakeWhile_imp he⟩

/-- A name is no number that can take a fraction, whatever stands before it. -/
theorem not_endsInWhole_of_name {before lexeme : List Char} (h : Pattern.name.Spells lexeme) :
    ¬ EndsInWhole (before ++ lexeme) := by
  have hnames := Pattern.isNameCharacter_of_spells_name h
  obtain ⟨c, others, hcons, hc, -⟩ := h
  have hdigit : c.isDigit = false := by
    by_contra hd
    rw [isNameStart_eq_false_of_isDigit (by simpa using hd)] at hc
    cases hc
  obtain ⟨front, d, digits, rfl, hd, hdigits⟩ :=
    exists_last_of_mem (hcons ▸ List.mem_cons_self) hdigit
  have hstart : isNameStart d = true := by
    have hname := isNameCharacter_iff.1 (hnames d (by simp))
    simpa [hd] using hname
  rw [← List.append_assoc, endsInWhole_append hd hdigits, hstart]
  simp

/-- Behind a name no digit follows, and no fraction either. -/
theorem boundary_of_name {before lexeme rest : List Char} (h : Pattern.name.Spells lexeme)
    (hends : Stops isNameCharacter rest) : Boundary (before ++ lexeme) rest := by
  refine ⟨fun d hd hdigit ↦ ?_, fun _ _ _ ↦ not_endsInWhole_of_name h⟩
  have hname := hends d hd
  rw [isNameCharacter_of_isDigit hdigit] at hname
  cases hname

/-- Behind a number no digit follows, and no fraction unless the number has one already. -/
theorem boundary_of_numeral {before lexeme rest : List Char} (h : Pattern.numeral.Spells lexeme)
    (hends : Pattern.numeral.Ends lexeme rest) : Boundary (before ++ lexeme) rest := by
  refine ⟨fun d hd hdigit ↦ ?_, ?_⟩
  · rw [hends.1 d hd] at hdigit
    cases hdigit
  · intro after hrest hfollows hwhole
    subst hrest
    obtain ⟨d, hd, hdigit⟩ := hfollows
    have hfraction : Pattern.fraction ('.' :: after) ≠ [] := by
      intro hnone
      rw [Pattern.fraction_eq_nil_iff.1 hnone after rfl d hd] at hdigit
      cases hdigit
    rcases h with hdigits | ⟨whole, digits, rfl, -, hdigits⟩
    · exact hfraction (hends.2.resolve_left (Pattern.not_mem_of_isDigits hdigits))
    · rw [← List.append_assoc, endsInWhole_append (by decide) hdigits.2] at hwhole
      exact hwhole.2.2 rfl

/-- The end of a token is a boundary. -/
theorem Fits.boundary {kind : Kind} {before lexeme rest : List Char} (h : Fits kind lexeme rest) :
    Boundary (before ++ lexeme) rest := by
  have hspells := h.spells
  have hends := h.ends
  cases kind with
  | keyword =>
    refine boundary_of_name (spells_name_of_spells_keyword hspells) ?_
    exact Stops.mono hends fun _ ↦ isWordCharacter_of_isNameCharacter
  | identifier => exact boundary_of_name hspells hends
  | number => exact boundary_of_numeral hspells hends
  | assign | operator | semicolon | leftParen | rightParen =>
    obtain ⟨c, hc, rfl⟩ := hspells
    simp only [List.mem_cons, List.not_mem_nil, or_false] at hc
    rcases hc with rfl | rfl | rfl | rfl <;> exact boundary_concat (by decide) (by decide) rest

/-- The digits of a number that begins at a boundary make up all of the run that ends with them. -/
theorem endsInWhole_of_boundary {before whole rest : List Char} (hwhole : Pattern.IsDigits whole)
    (h : Boundary before (whole ++ rest)) : EndsInWhole (before ++ whole) := by
  obtain ⟨d, others, hcons⟩ := List.exists_cons_of_ne_nil hwhole.1
  have hfront := h.number d (by simp [hcons]) (hwhole.2 d (by simp [hcons]))
  rcases List.eq_nil_or_concat before with rfl | ⟨front, c, rfl⟩
  · simpa using endsInWhole_of_isDigits hwhole
  · rw [List.concat_eq_append] at hfront ⊢
    obtain ⟨hname, hpoint⟩ := hfront c (by simp)
    obtain ⟨hstart, hdigit⟩ := isNameCharacter_eq_false_iff.1 hname
    rw [List.append_assoc, List.singleton_append, endsInWhole_append hdigit hwhole.2]
    exact ⟨hwhole.1, hstart, hpoint⟩

theorem allLegal_of_blank {gap : List Char} (hgap : Blank gap) (before after : List Char) :
    AllLegal before gap after := by
  intro front c back htext
  subst htext
  exact .inl (hgap c (by simp))

theorem allLegal_of_ofFirst?_ne_none {text : List Char} (h : ∀ c ∈ text, Kind.ofFirst? c ≠ none)
    (before after : List Char) : AllLegal before text after := by
  intro front c back htext
  subst htext
  exact legal_of_ofFirst?_ne_none (h c (by simp)) _ _

theorem allLegal_singleton {before after : List Char} {c : Char} (h : Legal before c after) :
    AllLegal before [c] after := by
  intro front d back hcons
  cases front with
  | nil =>
    cases hcons
    simpa using h
  | cons e front => simp at hcons

theorem allLegal_of_isDigits {digits : List Char} (h : Pattern.IsDigits digits)
    (before after : List Char) : AllLegal before digits after := by
  apply allLegal_of_ofFirst?_ne_none
  intro c hc
  rw [Kind.ofFirst?_of_isDigit (h.2 c hc)]
  simp

/-- At a boundary, all characters of a token are legal. -/
theorem Fits.allLegal {kind : Kind} {before lexeme rest : List Char} (h : Fits kind lexeme rest)
    (hboundary : Boundary before (lexeme ++ rest)) : AllLegal before lexeme rest := by
  by_cases hpoint : kind = .number ∧ '.' ∈ lexeme
  · obtain ⟨rfl, hmem⟩ := hpoint
    rcases h.spells with hdigits | ⟨whole, digits, rfl, hwhole, hdigits⟩
    · exact absurd hmem (Pattern.not_mem_of_isDigits hdigits)
    · rw [List.append_assoc] at hboundary
      have hlegal : Legal (before ++ whole) '.' (digits ++ rest) := by
        obtain ⟨d, others, hcons⟩ := List.exists_cons_of_ne_nil hdigits.1
        refine .inr (.inr (.inr ⟨rfl, ⟨d, by simp [hcons], ?_⟩, ?_⟩))
        · exact hdigits.2 d (by simp [hcons])
        · exact endsInWhole_of_boundary hwhole hboundary
      apply AllLegal.append (allLegal_of_isDigits hwhole _ _)
      rw [← List.singleton_append]
      exact (allLegal_singleton hlegal).append (allLegal_of_isDigits hdigits _ _)
  · apply allLegal_of_ofFirst?_ne_none
    intro c hc
    rcases Kind.ofFirst?_ne_none_of_mem h.spells hc with hfirst | ⟨hnumber, rfl⟩
    · exact hfirst
    · exact absurd ⟨hnumber, hc⟩ hpoint

/-- A character at which no token begins is illegal at a boundary. -/
theorem Boundary.not_legal {before rest : List Char} {c : Char} (h : Boundary before (c :: rest))
    (hvisible : isWhiteSpace c = false) (hfirst : Kind.ofFirst? c = none) :
    ¬ Legal before c rest := by
  intro hlegal
  obtain ⟨rfl, hdigit, hwhole⟩ := legal_of_ofFirst?_eq_none hvisible hfirst hlegal
  exact h.point rest rfl hdigit hwhole

/-- What a cursor scans from a boundary on is legal, up to the end or up to an illegal character. -/
theorem legal_of_scan (cursor : Cursor) (before : List Char)
    (hplace : cursor.position = .ofText before) (hboundary : Boundary before cursor.rest) :
    ((cursor.scan grammar).failure? = none → AllLegal before cursor.rest []) ∧
      ∀ e, (cursor.scan grammar).failure? = some e →
        ∃ text after, cursor.rest = text ++ e.character :: after ∧
          AllLegal before text (e.character :: after) ∧
          ¬ Legal (before ++ text) e.character after ∧
          e.position = .ofText (before ++ text) := by
  fun_induction cursor.scan grammar generalizing before with
  | case1 cursor hnext =>
    cases Cursor.step_iff.2 hnext with
    | ended hgap => exact ⟨fun _ ↦ allLegal_of_blank hgap _ _, by simp⟩
  | case2 cursor e hnext =>
    cases Cursor.step_iff.2 hnext with
    | @unknown place gap rest c hgap hvisible hfirst =>
      simp only at hplace hboundary
      refine ⟨by simp, ?_⟩
      intro e he
      cases he
      refine ⟨gap, rest, rfl, allLegal_of_blank hgap _ _, ?_, ?_⟩
      · exact (hboundary.past_gap hgap).not_legal hvisible hfirst
      · simp only [hplace, Position.advanceOver_ofText]
  | case3 cursor token after hnext hshorter ih =>
    cases Cursor.step_iff.2 hnext with
    | @token place gap rest token hgap htoken hfits =>
      simp only at hplace hboundary
      obtain ⟨-, hstop⟩ := hfits.places hplace htoken
      have htext (later after : List Char) (hrest : rest = later ++ after)
          (hlater : AllLegal (before ++ gap ++ token.lexeme.toList) later after) :
          AllLegal before (gap ++ (token.lexeme.toList ++ later)) after := by
        subst hrest
        have hlexeme := hfits.allLegal (hboundary.past_gap hgap)
        exact (allLegal_of_blank hgap _ _).append (hlexeme.append hlater)
      obtain ⟨hnone, hsome⟩ := ih _ hstop hfits.boundary
      constructor
      · intro hfailure
        exact htext rest [] (List.append_nil _).symm (hnone hfailure)
      · intro e hfailure
        obtain ⟨text, after, hrest, hlegal, hillegal, heplace⟩ := hsome e hfailure
        refine ⟨gap ++ (token.lexeme.toList ++ text), after, ?_, htext _ _ hrest hlegal, ?_, ?_⟩
        · simp only at hrest
          simp [hrest]
        · simpa using hillegal
        · simpa using heplace

theorem AllLegal.of_length_lt {text later before after : List Char} {c : Char}
    (h : AllLegal [] text later) (htext : text ++ later = before ++ c :: after)
    (hlength : before.length < text.length) : Legal before c after := by
  rcases List.append_eq_append_iff.1 htext with ⟨middle, rfl, -⟩ | ⟨middle, rfl, hlater⟩
  · rw [List.length_append] at hlength
    omega
  · cases middle with
    | nil => simp at hlength
    | cons d middle =>
      obtain ⟨rfl, rfl⟩ := List.cons.inj hlater
      exact h before c middle rfl

/-- An error is the first illegal character. -/
theorem first_illegal_of_tokenize {source : String} {e : UnknownCharacter}
    (h : (Lexer.ofSource source).tokenize = .error e) :
    ∃ before after, source.toList = before ++ e.character :: after ∧
      ¬ Legal before e.character after ∧
      (∀ before' c after', source.toList = before' ++ c :: after' →
        before'.length < before.length → Legal before' c after') ∧
      e.position = .ofText before := by
  have hscan := (legal_of_scan (.start source) [] rfl (boundary_nil _)).2
  obtain ⟨before, after, htext, hlegal, hillegal, hplace⟩ :=
    hscan e (Attempt.toExcept_eq_error_iff.1 h)
  refine ⟨before, after, htext, hillegal, ?_, hplace⟩
  intro before' c after' htext' hlength
  exact hlegal.of_length_lt (htext.symm.trans htext') hlength

/-- A source is read to its end exactly if all its characters are legal. Otherwise the error is the
first character that is not, at its counted place. -/
theorem tokenize_legal (source : String) :
    ((∃ tokens, (Lexer.ofSource source).tokenize = .ok tokens) ↔
      ∀ before c after, source.toList = before ++ c :: after → Legal before c after) ∧
    ∀ e, (Lexer.ofSource source).tokenize = .error e ↔
      ∃ before after, source.toList = before ++ e.character :: after ∧
        ¬ Legal before e.character after ∧
        (∀ before' c after', source.toList = before' ++ c :: after' →
          before'.length < before.length → Legal before' c after') ∧
        e.position = .ofText before := by
  have hall : (∃ tokens, (Lexer.ofSource source).tokenize = .ok tokens) →
      ∀ before c after, source.toList = before ++ c :: after → Legal before c after := by
    intro hread before c after htext
    obtain ⟨tokens, htokens⟩ := hread
    have hscan := (legal_of_scan (.start source) [] rfl (boundary_nil _)).1
    have hlegal := hscan (Attempt.toExcept_eq_ok_iff.1 htokens).1 before c after htext
    simpa using hlegal
  refine ⟨⟨hall, ?_⟩, fun e ↦ ⟨first_illegal_of_tokenize, ?_⟩⟩
  · intro hlegal
    cases htokenize : (Lexer.ofSource source).tokenize with
    | ok tokens => exact ⟨tokens, rfl⟩
    | error e =>
      obtain ⟨before, after, htext, hillegal, -⟩ := first_illegal_of_tokenize htokenize
      exact absurd (hlegal _ _ _ htext) hillegal
  · intro hfirst
    obtain ⟨before, after, htext, hillegal, hearlier, hplace⟩ := hfirst
    cases htokenize : (Lexer.ofSource source).tokenize with
    | ok tokens => exact absurd (hall ⟨tokens, htokenize⟩ _ _ _ htext) hillegal
    | error other =>
      obtain ⟨before', after', htext', hillegal', hearlier', hplace'⟩ :=
        first_illegal_of_tokenize htokenize
      have hlength : before.length = before'.length := by
        by_contra hne
        rcases Nat.lt_or_gt_of_ne hne with hlt | hlt
        · exact hillegal (hearlier' _ _ _ htext hlt)
        · exact hillegal' (hearlier _ _ _ htext' hlt)
      obtain ⟨rfl, hcons⟩ := List.append_inj (htext.symm.trans htext') hlength
      obtain ⟨character, position⟩ := e
      obtain ⟨character', position'⟩ := other
      simp only at hcons hplace hplace'
      rw [(List.cons.inj hcons).1, hplace, hplace']

end StraightLine.Token
