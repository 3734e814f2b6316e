import StraightLine.Proofs.Token.Pattern

/-!
# What the grammar finds

Of the rules of the language only the first two can match at the same place, so that the order of the
rules matters in one respect alone: a name must not be a reserved word that ends where the name
does. `match?_eq_some_iff` describes what the whole grammar finds at the front of a text, and
`match?_eq_none_iff` says that it finds nothing exactly at the characters that begin no token.
-/

namespace StraightLine.Token

open Text

def Kind.pattern : Kind → Pattern
  | keyword => .word reservedWords
  | identifier => .name
  | number => .numeral
  | assign => .mark ['=']
  | operator => .mark ['+', '-', '*', '/']
  | semicolon => .mark [';']
  | leftParen => .mark ['(']
  | rightParen => .mark [')']

theorem mem_grammar_iff {rule : Rule} : rule ∈ grammar ↔ rule.pattern = rule.kind.pattern := by
  obtain ⟨kind, pattern⟩ := rule
  cases kind <;> simp [grammar, Kind.pattern]

theorem hasNames_reservedWords : (Pattern.word reservedWords).HasNames := by
  intro w hw
  simp only [reservedWords, List.mem_cons, List.not_mem_nil, or_false] at hw
  rcases hw with rfl | rfl | rfl | rfl | rfl | rfl | rfl | rfl | rfl <;>
    exact ⟨_, _, rfl, by decide, List.all_eq_true.1 (by decide)⟩

theorem hasNames_pattern (kind : Kind) : kind.pattern.HasNames := by
  cases kind with
  | keyword => exact hasNames_reservedWords
  | _ => trivial

/-- A reserved word is spelled like a name. -/
theorem spells_name_of_spells_keyword {lexeme : List Char}
    (h : Kind.keyword.pattern.Spells lexeme) : Kind.identifier.pattern.Spells lexeme := by
  obtain ⟨w, hw, rfl⟩ := h
  exact hasNames_reservedWords w hw

/-- The kind of the tokens that begin with a character, where reserved words pass for names. -/
def Kind.ofFirst? (c : Char) : Option Kind :=
  if isNameStart c then some identifier
  else if c.isDigit then some number
  else match c with
    | '=' => some assign
    | '+' | '-' | '*' | '/' => some operator
    | ';' => some semicolon
    | '(' => some leftParen
    | ')' => some rightParen
    | _ => none

def marks : List Char := ['=', '+', '-', '*', '/', ';', '(', ')']

theorem Kind.ofFirst?_ne_none_iff {c : Char} :
    ofFirst? c ≠ none ↔ isNameCharacter c = true ∨ c ∈ marks := by
  unfold ofFirst?
  rw [isNameCharacter_iff]
  by_cases hstart : isNameStart c = true
  · simp [hstart]
  · by_cases hdigit : c.isDigit = true
    · simp [hstart, hdigit]
    · rw [if_neg hstart, if_neg hdigit]
      split <;> simp_all [marks]

/-- Marks are neither white space nor parts of words. -/
theorem classes_of_mem_marks {c : Char} (h : c ∈ marks) :
    isWhiteSpace c = false ∧ isWordCharacter c = false := by
  have hall : marks.all (fun d ↦ !isWhiteSpace d && !isWordCharacter d) = true := by
    decide +kernel
  have hboth := List.all_eq_true.1 hall c h
  rwa [Bool.and_eq_true, Bool.not_eq_true', Bool.not_eq_true'] at hboth

/-- No token begins with white space. -/
theorem Kind.ofFirst?_eq_none_of_isWhiteSpace {c : Char} (h : isWhiteSpace c = true) :
    ofFirst? c = none := by
  by_contra hsome
  rcases ofFirst?_ne_none_iff.1 hsome with hname | hmark
  · rw [isNameCharacter_eq_false_of_isWhiteSpace h] at hname
    cases hname
  · rw [(classes_of_mem_marks hmark).1] at h
    cases h

theorem Kind.ofFirst?_of_isNameStart {c : Char} (h : isNameStart c = true) :
    ofFirst? c = some identifier :=
  if_pos h

theorem Kind.ofFirst?_of_isDigit {c : Char} (h : c.isDigit = true) : ofFirst? c = some number := by
  unfold ofFirst?
  rw [isNameStart_eq_false_of_isDigit h, if_neg (by decide), if_pos h]

/-- The first character of a token tells its kind, up to the difference between names and reserved
words. -/
theorem Kind.ofFirst?_of_spells {kind : Kind} {c : Char} {others : List Char}
    (hkind : kind ≠ keyword) (h : kind.pattern.Spells (c :: others)) : ofFirst? c = some kind := by
  cases kind with
  | keyword => exact absurd rfl hkind
  | identifier =>
    obtain ⟨d, text, hcons, hd, -⟩ := h
    cases hcons
    exact ofFirst?_of_isNameStart hd
  | number =>
    rcases h with hdigits | ⟨whole, digits, hcons, hwhole, -⟩
    · exact ofFirst?_of_isDigit (hdigits.2 c List.mem_cons_self)
    · cases whole with
      | nil => exact absurd rfl hwhole.1
      | cons d whole =>
        cases hcons
        exact ofFirst?_of_isDigit (hwhole.2 c List.mem_cons_self)
  | assign | operator | semicolon | leftParen | rightParen =>
    obtain ⟨d, hd, hcons⟩ := h
    cases hcons
    simp only [List.mem_cons, List.not_mem_nil, or_false] at hd
    rcases hd with rfl | rfl | rfl | rfl <;> decide

theorem Kind.ofFirst?_ne_none_of_spells {kind : Kind} {c : Char} {others : List Char}
    (h : kind.pattern.Spells (c :: others)) : ofFirst? c ≠ none := by
  by_cases hkind : kind = keyword
  · subst hkind
    have hname := ofFirst?_of_spells (by decide) (spells_name_of_spells_keyword h)
    simp [hname]
  · simp [ofFirst?_of_spells hkind h]

theorem Kind.lexeme?_ne_none_of_ofFirst? {kind : Kind} {c : Char} (h : ofFirst? c = some kind)
    (text : List Char) : kind.pattern.lexeme? (c :: text) ≠ none := by
  unfold ofFirst? at h
  split at h
  · next hc =>
    cases h
    simp [pattern, Pattern.lexeme?, hc]
  · split at h
    · next hc =>
      cases h
      simp [pattern, Pattern.lexeme?, hc]
    · split at h <;> cases h <;> simp [pattern, Pattern.lexeme?]

/-- Every character of a token could begin one, except for the point of a number. -/
theorem Kind.ofFirst?_ne_none_of_mem {kind : Kind} {lexeme : List Char} {c : Char}
    (h : kind.pattern.Spells lexeme) (hc : c ∈ lexeme) :
    ofFirst? c ≠ none ∨ kind = number ∧ c = '.' := by
  have hdigits {digits : List Char} (hrun : Pattern.IsDigits digits) (hd : c ∈ digits) :
      ofFirst? c ≠ none :=
    ofFirst?_ne_none_iff.2 (.inl (isNameCharacter_of_isDigit (hrun.2 c hd)))
  cases kind with
  | keyword =>
    have hname := Pattern.isNameCharacter_of_spells_name (spells_name_of_spells_keyword h) c hc
    exact .inl (ofFirst?_ne_none_iff.2 (.inl hname))
  | identifier =>
    have hname := Pattern.isNameCharacter_of_spells_name h c hc
    exact .inl (ofFirst?_ne_none_iff.2 (.inl hname))
  | number =>
    rcases h with hrun | ⟨whole, digits, rfl, hwhole, hfraction⟩
    · exact .inl (hdigits hrun hc)
    · rcases List.mem_append.1 hc with hc | hc
      · exact .inl (hdigits hwhole hc)
      · rcases List.mem_cons.1 hc with rfl | hc
        · exact .inr ⟨rfl, rfl⟩
        · exact .inl (hdigits hfraction hc)
  | assign | operator | semicolon | leftParen | rightParen =>
    obtain ⟨d, hd, rfl⟩ := h
    rw [List.mem_singleton] at hc
    subst hc
    refine .inl (ofFirst?_ne_none_iff.2 (.inr ?_))
    simp only [List.mem_cons, List.not_mem_nil, or_false] at hd
    rcases hd with rfl | rfl | rfl | rfl <;> decide

/-- No token holds white space. -/
theorem Kind.isWhiteSpace_eq_false_of_mem {kind : Kind} {lexeme : List Char} {c : Char}
    (h : kind.pattern.Spells lexeme) (hc : c ∈ lexeme) : isWhiteSpace c = false := by
  rcases ofFirst?_ne_none_of_mem h hc with hfirst | ⟨-, rfl⟩
  · by_contra hspace
    exact hfirst (ofFirst?_eq_none_of_isWhiteSpace (by simpa using hspace))
  · decide

/-- Whether a text of a kind ends where the rest begins and, if it is a name, is no reserved word
that ends there. -/
structure Fits (kind : Kind) (lexeme rest : List Char) : Prop where
  spells : kind.pattern.Spells lexeme
  ends : kind.pattern.Ends lexeme rest
  unreserved : kind = .identifier →
    ¬ (Kind.keyword.pattern.Spells lexeme ∧ Kind.keyword.pattern.Ends lexeme rest)

theorem Fits.lexeme? {kind : Kind} {lexeme rest : List Char} (h : Fits kind lexeme rest) :
    kind.pattern.lexeme? (lexeme ++ rest) = some lexeme :=
  (Pattern.lexeme?_eq_some_iff (hasNames_pattern kind)).2 ⟨rest, rfl, h.spells, h.ends⟩

/-- Reserved words are looked for first. -/
theorem match?_of_keyword {text lexeme : List Char}
    (h : Kind.keyword.pattern.lexeme? text = some lexeme) :
    grammar.match? text = some (.keyword, lexeme) := by
  have hfirst : (Pattern.word reservedWords).lexeme? text = some lexeme := h
  rw [Grammar.match?, grammar, List.findSome?_cons, hfirst]
  rfl

theorem exists_fits_of_match? {text lexeme : List Char} {kind : Kind}
    (h : grammar.match? text = some (kind, lexeme)) :
    ∃ rest, text = lexeme ++ rest ∧ Fits kind lexeme rest := by
  obtain ⟨rule, hrule, hmap⟩ := List.exists_of_findSome?_eq_some h
  obtain ⟨found, hfound, hpair⟩ := Option.map_eq_some_iff.1 hmap
  cases hpair
  rw [mem_grammar_iff.1 hrule, Pattern.lexeme?_eq_some_iff (hasNames_pattern _)] at hfound
  obtain ⟨rest, rfl, hspells, hends⟩ := hfound
  refine ⟨rest, rfl, hspells, hends, ?_⟩
  intro hname hreserved
  obtain ⟨hword, hwordEnds⟩ := hreserved
  have hkeyword := match?_of_keyword
    ((Pattern.lexeme?_eq_some_iff (hasNames_pattern .keyword)).2 ⟨rest, rfl, hword, hwordEnds⟩)
  rw [h, hname] at hkeyword
  cases hkeyword

theorem match?_ne_none_of_lexeme? {kind : Kind} {text lexeme : List Char}
    (h : kind.pattern.lexeme? text = some lexeme) : grammar.match? text ≠ none := by
  intro hnone
  have hrule := List.findSome?_eq_none_iff.1 hnone ⟨kind, kind.pattern⟩ (mem_grammar_iff.2 rfl)
  rw [h] at hrule
  cases hrule

theorem Fits.ne_nil {kind : Kind} {lexeme rest : List Char} (h : Fits kind lexeme rest) :
    lexeme ≠ [] :=
  Pattern.lexeme?_ne_nil h.lexeme?

/-- A reserved word that ends somewhere and a name that ends there are one text. -/
theorem eq_of_keyword_of_identifier {word lexeme rest rest' : List Char}
    (hword : Kind.keyword.pattern.Spells word) (hwordEnds : Kind.keyword.pattern.Ends word rest)
    (hname : Kind.identifier.pattern.Spells lexeme)
    (hnameEnds : Kind.identifier.pattern.Ends lexeme rest') (h : word ++ rest = lexeme ++ rest') :
    word = lexeme ∧ rest = rest' := by
  have hwordName := spells_name_of_spells_keyword hword
  have hstop : Stops isNameCharacter rest :=
    Stops.mono hwordEnds fun _ ↦ isWordCharacter_of_isNameCharacter
  exact Pattern.eq_of_append_eq_append (Pattern.isNameCharacter_of_spells_name hwordName) hstop
    (Pattern.isNameCharacter_of_spells_name hname) hnameEnds h

/-- No two tokens fit at the front of one text. -/
theorem Fits.unique {kind kind' : Kind} {lexeme lexeme' rest rest' : List Char}
    (h : Fits kind lexeme rest) (h' : Fits kind' lexeme' rest')
    (htext : lexeme ++ rest = lexeme' ++ rest') : kind = kind' ∧ lexeme = lexeme' := by
  have hsame : kind = kind' → kind = kind' ∧ lexeme = lexeme' := by
    intro hkind
    subst hkind
    have hfound := h.lexeme?
    rw [htext, h'.lexeme?, Option.some.injEq] at hfound
    exact ⟨rfl, hfound.symm⟩
  have hspells := h.spells
  have hspells' := h'.spells
  obtain ⟨c, others, hcons⟩ := List.exists_cons_of_ne_nil h.ne_nil
  obtain ⟨c', others', hcons'⟩ := List.exists_cons_of_ne_nil h'.ne_nil
  obtain rfl : c = c' := by
    rw [hcons, hcons'] at htext
    exact (List.cons.inj htext).1
  rw [hcons] at hspells
  rw [hcons'] at hspells'
  by_cases hkeyword : kind = .keyword <;> by_cases hkeyword' : kind' = .keyword
  · exact hsame (hkeyword.trans hkeyword'.symm)
  · subst hkeyword
    have hname := Kind.ofFirst?_of_spells (by decide) (spells_name_of_spells_keyword hspells)
    have hkind' := Kind.ofFirst?_of_spells hkeyword' hspells'
    obtain rfl : kind' = .identifier := Option.some.inj (hkind'.symm.trans hname)
    obtain ⟨rfl, rfl⟩ := eq_of_keyword_of_identifier h.spells h.ends h'.spells h'.ends htext
    exact absurd ⟨h.spells, h.ends⟩ (h'.unreserved rfl)
  · subst hkeyword'
    have hname := Kind.ofFirst?_of_spells (by decide) (spells_name_of_spells_keyword hspells')
    have hkind := Kind.ofFirst?_of_spells hkeyword hspells
    obtain rfl : kind = .identifier := Option.some.inj (hkind.symm.trans hname)
    obtain ⟨rfl, rfl⟩ :=
      eq_of_keyword_of_identifier h'.spells h'.ends h.spells h.ends htext.symm
    exact absurd ⟨h'.spells, h'.ends⟩ (h.unreserved rfl)
  · have hkind := Kind.ofFirst?_of_spells hkeyword hspells
    have hkind' := Kind.ofFirst?_of_spells hkeyword' hspells'
    exact hsame (Option.some.inj (hkind.symm.trans hkind'))

/-- The grammar finds the one token that fits. -/
theorem match?_eq_some_iff {text lexeme : List Char} {kind : Kind} :
    grammar.match? text = some (kind, lexeme) ↔
      ∃ rest, text = lexeme ++ rest ∧ Fits kind lexeme rest := by
  constructor
  · exact exists_fits_of_match?
  · intro hexists
    obtain ⟨rest, rfl, hfits⟩ := hexists
    obtain ⟨⟨kind', lexeme'⟩, hfound⟩ :=
      Option.ne_none_iff_exists'.1 (match?_ne_none_of_lexeme? hfits.lexeme?)
    obtain ⟨rest', htext, hfits'⟩ := exists_fits_of_match? hfound
    obtain ⟨rfl, rfl⟩ := hfits.unique hfits' htext
    exact hfound

/-- The grammar finds nothing only where no token can begin. -/
theorem match?_eq_none_iff {c : Char} {text : List Char} :
    grammar.match? (c :: text) = none ↔ Kind.ofFirst? c = none := by
  constructor
  · intro hnone
    by_contra hsome
    obtain ⟨kind, hkind⟩ := Option.ne_none_iff_exists'.1 hsome
    obtain ⟨lexeme, hlexeme⟩ :=
      Option.ne_none_iff_exists'.1 (Kind.lexeme?_ne_none_of_ofFirst? hkind text)
    exact match?_ne_none_of_lexeme? hlexeme hnone
  · intro hnone
    by_contra hsome
    obtain ⟨⟨kind, lexeme⟩, hfound⟩ := Option.ne_none_iff_exists'.1 hsome
    obtain ⟨rest, htext, hfits⟩ := exists_fits_of_match? hfound
    obtain ⟨d, others, rfl⟩ := List.exists_cons_of_ne_nil hfits.ne_nil
    obtain rfl : c = d := (List.cons.inj htext).1
    exact Kind.ofFirst?_ne_none_of_spells hfits.spells hnone

end StraightLine.Token
