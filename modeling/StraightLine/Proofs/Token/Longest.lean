import StraightLine.Proofs.Token.Reading
import Mathlib.Data.List.Perm.Basic

/-!
# The longest match

The rules of the language are tried in order and the first that matches decides, however long the texts
are that other rules would find. All the same it finds the longest: every pattern finds the longest of its
own texts (`Pattern.exists_lexeme?_of_begins`), and two rules that both find something find the same text
(`lexeme?_of_match?`), one of them as a name and the other as a reserved word. What the order decides is
therefore only which of these two it is (`Grammar.Reorders.match?_eq`).
-/

namespace StraightLine.Token

open Text

/-! ## The longest text of a pattern -/

namespace Pattern

/-- Whether what follows a text of a pattern lets it be one. A text that is no word may be followed by
anything, also by characters that would make it longer. -/
def Allows : Pattern → List Char → Prop
  | word _, rest => Stops isWordCharacter rest
  | _, _ => True

/-- Whether a text of a pattern stands at the front of a longer one. -/
def Begins (pattern : Pattern) (text front : List Char) : Prop :=
  ∃ rest, text = front ++ rest ∧ pattern.Spells front ∧ pattern.Allows rest

theorem begins_of_lexeme? {pattern : Pattern} (hnames : pattern.HasNames) {text lexeme : List Char}
    (h : pattern.lexeme? text = some lexeme) : pattern.Begins text lexeme := by
  obtain ⟨rest, htext, hspells, hends⟩ := (lexeme?_eq_some_iff hnames).1 h
  refine ⟨rest, htext, hspells, ?_⟩
  cases pattern with
  | word => exact hends
  | name | numeral | mark => trivial

theorem lexeme?_name_append {front : List Char} (h : name.Spells front) (rest : List Char) :
    name.lexeme? (front ++ rest) = some (front ++ rest.takeWhile isNameCharacter) := by
  obtain ⟨c, others, rfl, hc, hothers⟩ := h
  rw [List.cons_append, lexeme?, if_pos hc, List.takeWhile_append_of_pos hothers, List.cons_append]

/-- Digits that follow a run of digits go on with it, and then there may be a fraction. -/
theorem exists_lexeme?_digits {digits : List Char} (h : IsDigits digits) (rest : List Char) :
    ∃ more, numeral.lexeme? (digits ++ rest) = some (digits ++ more) := by
  have hwhole : IsDigits (digits ++ rest.takeWhile Char.isDigit) := by
    refine ⟨List.append_ne_nil_of_left_ne_nil h.1 _, fun c hc ↦ ?_⟩
    exact (List.mem_append.1 hc).elim (h.2 c) of_mem_takeWhile
  refine ⟨rest.takeWhile Char.isDigit ++ fraction (rest.dropWhile Char.isDigit), ?_⟩
  calc
    numeral.lexeme? (digits ++ rest) =
        numeral.lexeme?
          ((digits ++ rest.takeWhile Char.isDigit) ++ rest.dropWhile Char.isDigit) := by
      rw [List.append_assoc, List.takeWhile_append_dropWhile]
    _ = some ((digits ++ rest.takeWhile Char.isDigit) ++ fraction (rest.dropWhile Char.isDigit)) :=
        lexeme?_numeral_of_isDigits hwhole (stops_dropWhile _ _)
    _ = _ := by rw [List.append_assoc]

theorem exists_lexeme?_numeral {front : List Char} (h : numeral.Spells front) (rest : List Char) :
    ∃ more, numeral.lexeme? (front ++ rest) = some (front ++ more) := by
  rcases h with hdigits | ⟨whole, digits, rfl, hwhole, hdigits⟩
  · exact exists_lexeme?_digits hdigits rest
  · refine ⟨rest.takeWhile Char.isDigit, ?_⟩
    have hmore : IsDigits (digits ++ rest.takeWhile Char.isDigit) := by
      refine ⟨List.append_ne_nil_of_left_ne_nil hdigits.1 _, fun c hc ↦ ?_⟩
      exact (List.mem_append.1 hc).elim (hdigits.2 c) of_mem_takeWhile
    have hfraction : fraction ('.' :: (digits ++ rest)) =
        '.' :: (digits ++ rest.takeWhile Char.isDigit) := by
      rw [← fraction_cons hmore (stops_dropWhile Char.isDigit rest), List.append_assoc,
        List.takeWhile_append_dropWhile]
    rw [List.append_assoc, List.cons_append,
      lexeme?_numeral_of_isDigits hwhole (stops_isDigit_point _), hfraction, List.append_assoc,
      List.cons_append]

/-- Of its texts at the front of a longer one a pattern finds the longest. -/
theorem exists_lexeme?_of_begins {pattern : Pattern} (hnames : pattern.HasNames)
    {text front : List Char} (h : pattern.Begins text front) :
    ∃ lexeme, pattern.lexeme? text = some lexeme ∧ front <+: lexeme := by
  obtain ⟨rest, rfl, hspells, hallows⟩ := h
  cases pattern with
  | word words =>
    exact ⟨front, (lexeme?_eq_some_iff hnames).2 ⟨rest, rfl, hspells, hallows⟩, List.prefix_rfl⟩
  | name => exact ⟨_, lexeme?_name_append hspells rest, List.prefix_append _ _⟩
  | numeral =>
    obtain ⟨more, hmore⟩ := exists_lexeme?_numeral hspells rest
    exact ⟨_, hmore, List.prefix_append _ _⟩
  | mark characters =>
    exact ⟨front, (lexeme?_eq_some_iff hnames).2 ⟨rest, rfl, hspells, trivial⟩, List.prefix_rfl⟩

/-- The order of the words has no part in what a pattern finds. -/
theorem lexeme?_word_of_perm {words others : List String} (hnames : (word words).HasNames)
    (h : others.Perm words) (text : List Char) :
    (word others).lexeme? text = (word words).lexeme? text := by
  have hothers : (word others).HasNames := fun w hw ↦ hnames w (h.mem_iff.1 hw)
  have hspells (lexeme : List Char) : (word others).Spells lexeme ↔ (word words).Spells lexeme := by
    simp only [Spells, h.mem_iff]
  ext lexeme
  rw [lexeme?_eq_some_iff hothers, lexeme?_eq_some_iff hnames]
  simp only [hspells, Ends]

end Pattern

/-! ## The longest text of the grammar -/

/-- Rules that both find something find the same text. If their kinds differ, then the rule that decides
has found a reserved word and the other one a name. -/
theorem lexeme?_of_match? {text lexeme found : List Char} {kind other : Kind}
    (hmatch : grammar.match? text = some (kind, lexeme)) (h : other.pattern.lexeme? text = some found) :
    found = lexeme ∧ (other = kind ∨ kind = .keyword ∧ other = .identifier) := by
  by_cases hsame : other = kind
  · subst hsame
    obtain ⟨rest, rfl, hfits⟩ := match?_eq_some_iff.1 hmatch
    exact ⟨Option.some.inj (h.symm.trans hfits.lexeme?), .inl rfl⟩
  · -- the kinds differ, so the other rule would not fit here: what it finds is a reserved word
    obtain ⟨rest, rfl, hspells, hends⟩ := (Pattern.lexeme?_eq_some_iff (hasNames_pattern other)).1 h
    obtain ⟨rest', htext, hfits⟩ := match?_eq_some_iff.1 hmatch
    have hreserved : other = .identifier ∧
        Kind.keyword.pattern.Spells found ∧ Kind.keyword.pattern.Ends found rest := by
      by_contra hunreserved
      have hother : Fits other found rest :=
        ⟨hspells, hends, fun hname hword ↦ hunreserved ⟨hname, hword⟩⟩
      exact hsame (hother.unique hfits htext).1
    obtain ⟨rfl, hword, hwordEnds⟩ := hreserved
    have hkeyword : Fits .keyword found rest := ⟨hword, hwordEnds, by simp⟩
    obtain ⟨rfl, rfl⟩ := hkeyword.unique hfits htext
    exact ⟨rfl, .inr ⟨rfl, rfl⟩⟩

/-- The grammar finds a text at least as long as any that a rule has at the front of a longer one. -/
theorem exists_match?_of_begins {rule : Rule} (hrule : rule ∈ grammar) {text front : List Char}
    (h : rule.pattern.Begins text front) :
    ∃ chosen ∈ grammar, ∃ lexeme, grammar.match? text = some (chosen.kind, lexeme) ∧
      chosen.pattern.Begins text lexeme ∧ front <+: lexeme ∧
      (rule.kind = chosen.kind ∨ chosen.kind = .keyword ∧ rule.kind = .identifier) := by
  rw [mem_grammar_iff.1 hrule] at h
  obtain ⟨found, hfound, hfront⟩ := Pattern.exists_lexeme?_of_begins (hasNames_pattern _) h
  obtain ⟨⟨kind, lexeme⟩, hmatch⟩ :=
    Option.ne_none_iff_exists'.1 (match?_ne_none_of_lexeme? hfound)
  obtain ⟨rfl, hkind⟩ := lexeme?_of_match? hmatch hfound
  obtain ⟨rest, rfl, hfits⟩ := match?_eq_some_iff.1 hmatch
  exact ⟨⟨kind, kind.pattern⟩, mem_grammar_iff.2 rfl, found, hmatch,
    Pattern.begins_of_lexeme? (hasNames_pattern kind) hfits.lexeme?, hfront, hkind⟩

/-! ## Other orders of the rules -/

def grammarOf (words : List String) : Grammar :=
  ⟨.keyword, .word words⟩ :: grammar.tail

/-- Whether a grammar lists the rules of the language, and the reserved words in one of them, in some
order in which reserved words are looked for before names. -/
structure Grammar.Reorders (other : Grammar) : Prop where
  rules : ∃ words, words.Perm reservedWords ∧ other.Perm (grammarOf words)
  keywordFirst : other.Pairwise fun earlier later ↦
    ¬ (earlier.kind = .identifier ∧ later.kind = .keyword)

namespace Grammar.Reorders

variable {other : Grammar}

/-- The rules find what they find in the usual order of the words. -/
theorem lexeme?_of_mem (h : other.Reorders) {rule : Rule} (hrule : rule ∈ other) (text : List Char) :
    rule.pattern.lexeme? text = rule.kind.pattern.lexeme? text := by
  obtain ⟨words, hwords, hperm⟩ := h.rules
  rcases List.mem_cons.1 (hperm.mem_iff.1 hrule) with rfl | htail
  · exact Pattern.lexeme?_word_of_perm hasNames_reservedWords hwords text
  · rw [mem_grammar_iff.1 (List.mem_of_mem_tail htail)]

/-- There is a rule for every kind. -/
theorem exists_mem (h : other.Reorders) (kind : Kind) : ∃ rule ∈ other, rule.kind = kind := by
  obtain ⟨words, -, hperm⟩ := h.rules
  have hkinds : (grammarOf words).map Rule.kind = grammar.map Rule.kind := rfl
  have hkind : kind ∈ grammar.map Rule.kind :=
    List.mem_map.2 ⟨⟨kind, kind.pattern⟩, mem_grammar_iff.2 rfl, rfl⟩
  rw [← hkinds] at hkind
  obtain ⟨rule, hrule, hrulekind⟩ := List.mem_map.1 hkind
  exact ⟨rule, hperm.mem_iff.2 hrule, hrulekind⟩

/-- A name is found only where no reserved word is. -/
theorem lexeme?_keyword_of_match? (h : other.Reorders) {text lexeme : List Char}
    (hmatch : other.match? text = some (.identifier, lexeme)) :
    Kind.keyword.pattern.lexeme? text = none := by
  obtain ⟨before, rule, after, hother, hfound, hbefore⟩ := List.findSome?_eq_some_iff.1 hmatch
  obtain ⟨_, -, hpair⟩ := Option.map_eq_some_iff.1 hfound
  have hname : rule.kind = .identifier := congrArg Prod.fst hpair
  obtain ⟨keyword, hkeyword, hkind⟩ := h.exists_mem .keyword
  -- the rule for reserved words is not the one for names and does not stand behind it
  have hfirst : keyword ∈ before := by
    rw [hother] at hkeyword
    rcases List.mem_append.1 hkeyword with hmem | hmem
    · exact hmem
    · rcases List.mem_cons.1 hmem with rfl | hmem
      · cases hname.symm.trans hkind
      · have hpairwise := h.keywordFirst
        rw [hother, List.pairwise_append, List.pairwise_cons] at hpairwise
        exact absurd ⟨hname, hkind⟩ (hpairwise.2.1.1 keyword hmem)
  have hmem : keyword ∈ other := hother ▸ List.mem_append_left _ hfirst
  have hnone := Option.map_eq_none_iff.1 (hbefore keyword hfirst)
  rwa [h.lexeme?_of_mem hmem, hkind] at hnone

/-- The order of the rules and words has no part in what a grammar finds. -/
theorem match?_eq (h : other.Reorders) (text : List Char) :
    other.match? text = grammar.match? text := by
  cases hother : other.match? text with
  | none =>
    cases hmatch : grammar.match? text with
    | none => rfl
    | some found =>
      obtain ⟨kind, lexeme⟩ := found
      obtain ⟨rule, hrule, rfl⟩ := h.exists_mem kind
      have hnone := List.findSome?_eq_none_iff.1 hother rule hrule
      obtain ⟨rest, rfl, hfits⟩ := match?_eq_some_iff.1 hmatch
      rw [h.lexeme?_of_mem hrule, hfits.lexeme?] at hnone
      cases hnone
  | some found =>
    obtain ⟨rule, hrule, hfound⟩ := List.exists_of_findSome?_eq_some hother
    obtain ⟨lexeme, hlexeme, rfl⟩ := Option.map_eq_some_iff.1 hfound
    rw [h.lexeme?_of_mem hrule] at hlexeme
    obtain ⟨⟨kind, lexeme'⟩, hmatch⟩ :=
      Option.ne_none_iff_exists'.1 (match?_ne_none_of_lexeme? hlexeme)
    obtain ⟨rfl, hkind | ⟨rfl, hname⟩⟩ := lexeme?_of_match? hmatch hlexeme
    · rw [hmatch, hkind]
    · rw [hname] at hother
      obtain ⟨rest, rfl, hfits⟩ := match?_eq_some_iff.1 hmatch
      cases (h.lexeme?_keyword_of_match? hother).symm.trans hfits.lexeme?

end Grammar.Reorders

namespace Cursor

variable {rules other : Grammar}

/-- What comes next depends on what the grammar finds, and on nothing else in it. -/
theorem next?_congr (h : ∀ text, other.match? text = rules.match? text) (cursor : Cursor) :
    cursor.next? other = cursor.next? rules := by
  simp only [next?, token?, h]

theorem scan_congr_grammar (h : ∀ text, other.match? text = rules.match? text) (cursor : Cursor) :
    cursor.scan other = cursor.scan rules := by
  fun_induction cursor.scan rules with
  | case1 cursor hnext => exact scan_eq_finished ((next?_congr h cursor).trans hnext)
  | case2 cursor e hnext => exact scan_eq_failed ((next?_congr h cursor).trans hnext)
  | case3 cursor token after hnext hshorter ih =>
    rw [scan_eq_cons ((next?_congr h cursor).trans hnext), ih]

end Cursor

/-- The first rule that matches finds the longest text that any rule has there, and if another rule has it
too, then it is a reserved word and would be a name. All orders of the rules that look for reserved words
before names, and all orders of the words, therefore make the same of a source. -/
theorem first_match_is_longest :
    (∀ rule ∈ grammar, ∀ text front, rule.pattern.Begins text front →
      ∃ chosen ∈ grammar, ∃ lexeme, grammar.match? text = some (chosen.kind, lexeme) ∧
        chosen.pattern.Begins text lexeme ∧ front.length ≤ lexeme.length ∧
        (front.length = lexeme.length → rule.kind = chosen.kind ∨
          chosen.kind = .keyword ∧ rule.kind = .identifier)) ∧
    ∀ other : Grammar, other.Reorders →
      (∀ text, other.match? text = grammar.match? text) ∧
      ∀ source, (Cursor.start source).scan other = (Lexer.ofSource source).remaining := by
  refine ⟨fun rule hrule text front hbegins ↦ ?_, fun other hother ↦ ⟨hother.match?_eq, fun source ↦ ?_⟩⟩
  · obtain ⟨chosen, hchosen, lexeme, hmatch, hlexeme, hfront, hkind⟩ :=
      exists_match?_of_begins hrule hbegins
    exact ⟨chosen, hchosen, lexeme, hmatch, hlexeme, hfront.length_le, fun _ ↦ hkind⟩
  · exact Cursor.scan_congr_grammar hother.match?_eq (.start source)

/-- Numbers may be looked for first, and the reserved words from the last to the first. -/
example : Grammar.Reorders (⟨.number, .numeral⟩ :: ⟨.keyword, .word reservedWords.reverse⟩ ::
    ⟨.identifier, .name⟩ :: grammar.drop 3) :=
  ⟨⟨reservedWords.reverse, List.reverse_perm reservedWords, by decide⟩, by decide⟩

end StraightLine.Token
