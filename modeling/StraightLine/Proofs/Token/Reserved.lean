import StraightLine.Proofs.Program.Recovery
import StraightLine.Proofs.Token.Place
import StraightLine.Proofs.Token.Spacing

/-!
# Reserved words

Names are made of ASCII characters, but a reserved word ends only where no word character of any script
follows. The letters of a reserved word are therefore read as a name only in front of a character of
another script, at which no token begins (`next_of_reserved_name`). Where a source has no such character,
the tokens that are spelled like reserved words are reserved words (`kind_eq_keyword_iff`), and no name in
a program is one.
-/

namespace StraightLine

namespace Token

open Text

/-! ## Reserved words and names -/

theorem spells_keyword_iff {lexeme : String} :
    Kind.keyword.pattern.Spells lexeme.toList ↔ lexeme ∈ reservedWords := by
  constructor
  · intro h
    obtain ⟨word, hword, hlexeme⟩ := h
    rwa [← String.toList_inj.1 hlexeme]
  · intro h
    exact ⟨lexeme, h, rfl⟩

/-- A reserved word has the spelling of no other kind than a name. -/
theorem eq_identifier_of_reserved {kind : Kind} {lexeme : String}
    (h : kind.pattern.Spells lexeme.toList) (hreserved : lexeme ∈ reservedWords)
    (hkind : kind ≠ .keyword) : kind = .identifier := by
  have hname := spells_name_of_spells_keyword (spells_keyword_iff.2 hreserved)
  obtain ⟨c, others, hcons, -⟩ := id hname
  rw [hcons] at h hname
  have hfirst := Kind.ofFirst?_of_spells hkind h
  exact Option.some.inj (hfirst.symm.trans (Kind.ofFirst?_of_spells (by decide) hname))

/-- A word character that cannot stand in a name belongs to another script, and no token begins with it. -/
theorem foreign_of_word_character {c : Char} (hword : isWordCharacter c = true)
    (hname : isNameCharacter c = false) :
    128 ≤ c.toNat ∧ isWhiteSpace c = false ∧ Kind.ofFirst? c = none := by
  refine ⟨?_, ?_, ?_⟩
  · by_contra hascii
    have hletter := (isWordCharacter_iff_of_lt (by omega)).1 hword
    rw [isNameCharacter, Bool.or_eq_false_iff, decide_eq_false_iff_not] at hname
    exact hletter.elim (by simp [hname.1]) hname.2
  · by_contra hspace
    cases (isWordCharacter_eq_false_of_isWhiteSpace (by simpa using hspace)).symm.trans hword
  · by_contra hfirst
    rcases Kind.ofFirst?_ne_none_iff.1 hfirst with hc | hc
    · cases hname.symm.trans hc
    · cases (classes_of_mem_marks hc).2.symm.trans hword

/-- Behind a name that is spelled like a reserved word stands a word character that cannot be in a name. -/
theorem Fits.exists_word_character {lexeme : String} {rest : List Char}
    (h : Fits .identifier lexeme.toList rest) (hreserved : lexeme ∈ reservedWords) :
    ∃ c later, rest = c :: later ∧ isWordCharacter c = true ∧ isNameCharacter c = false := by
  have hends : ¬ Stops isWordCharacter rest := fun hstop ↦
    h.unreserved rfl ⟨spells_keyword_iff.2 hreserved, hstop⟩
  cases rest with
  | nil => exact absurd stops_nil hends
  | cons c later =>
    rw [stops_cons, Bool.not_eq_false] at hends
    exact ⟨c, later, rfl, hends, stops_cons.1 h.ends⟩

/-! ## What a lexer hands out -/

namespace Lexer

variable {lexer : Lexer} {token : Token}

theorem exists_fits_of_next (h : lexer.next.1 = some (.ok token)) :
    ∃ rest, Fits token.kind token.lexeme.toList rest ∧ lexer.next.2 = ⟨⟨token.stop, rest⟩, false⟩ := by
  have hanswer := answer_next lexer
  generalize lexer.next = result at hanswer h
  cases hanswer with
  | exhausted | ended | unknown => cases h
  | token _ _ hfits =>
    cases h
    exact ⟨_, hfits, rfl⟩

/-- A name that is spelled like a reserved word is the last token: behind it comes the error. -/
theorem next_of_reserved_name (h : lexer.next.1 = some (.ok token)) (hkind : token.kind = .identifier)
    (hreserved : token.lexeme ∈ reservedWords) :
    ∃ c later, lexer.next.2 = ⟨⟨token.stop, c :: later⟩, false⟩ ∧ isWordCharacter c = true ∧
      128 ≤ c.toNat ∧ lexer.next.2.next.1 = some (.error ⟨c, token.stop⟩) := by
  obtain ⟨rest, hfits, hnext⟩ := exists_fits_of_next h
  rw [hkind] at hfits
  obtain ⟨c, later, rfl, hword, hname⟩ := hfits.exists_word_character hreserved
  obtain ⟨hscript, hvisible, hfirst⟩ := foreign_of_word_character hword hname
  have hstep : Cursor.next? grammar ⟨token.stop, c :: later⟩ = some (.error ⟨c, token.stop⟩) :=
    Cursor.step_iff.1 (@Step.unknown token.stop [] later c blank_nil hvisible hfirst)
  refine ⟨c, later, hnext, hword, hscript, ?_⟩
  rw [hnext]
  simp only [next, hstep, Bool.false_eq_true, if_false]

end Lexer

/-- Where a scan meets no unknown character, each of its tokens is cut off by what follows it. -/
theorem exists_cutsOff_of_mem_scan {cursor : Cursor} {token : Token}
    (hscan : (cursor.scan grammar).failure? = none) (h : token ∈ (cursor.scan grammar).items) :
    ∃ rest, Fits token.kind token.lexeme.toList rest ∧ CutsOff rest := by
  fun_induction cursor.scan grammar with
  | case1 => cases h
  | case2 => cases h
  | case3 cursor first after hnext hshorter ih =>
    rcases List.mem_cons.1 h with rfl | hlater
    · cases Cursor.step_iff.2 hnext with
      | token _ _ hfits => exact ⟨_, hfits, cutsOff_of_scan hscan⟩
    · exact ih hscan hlater

/-- In a source without unknown characters the reserved words are the keywords. -/
theorem kind_eq_keyword_iff {source : String} {tokens : List Token}
    (h : (Lexer.ofSource source).tokenize = .ok tokens) {token : Token} (htoken : token ∈ tokens) :
    token.kind = .keyword ↔ token.lexeme ∈ reservedWords := by
  obtain ⟨hfailure, rfl⟩ := Attempt.toExcept_eq_ok_iff.1 h
  obtain ⟨rest, hfits, hcut⟩ := exists_cutsOff_of_mem_scan hfailure htoken
  constructor
  · intro hkind
    rw [hkind] at hfits
    exact spells_keyword_iff.1 hfits.spells
  · intro hreserved
    by_contra hkind
    have hname := eq_identifier_of_reserved hfits.spells hreserved hkind
    rw [hname] at hfits
    exact hfits.unreserved rfl
      ⟨spells_keyword_iff.2 hreserved, hcut.stops_isWordCharacter hfits.ends⟩

end Token

/-! ## Programs -/

open Token Text

/-- Whether neither the target nor the operand of a statement is a reserved word. -/
def Assignment.SparesReserved (statement : Assignment) : Prop :=
  statement.name ∉ reservedWords ∧ statement.value.lexeme ∉ reservedWords

/-- The targets of a program are names, and its values are of the kinds that they are taken for. -/
theorem Program.Derivation.kind_of_mem {tokens : List Token} {program : Program}
    (h : Derivation tokens program) :
    ∀ statement ∈ program, statement.target.kind = .identifier ∧
      statement.value.token.kind = statement.value.kind := by
  induction h with
  | nil => exact List.forall_mem_nil _
  | @cons target sign value semicolon operand rest program htarget hsign hoperand hsemicolon hrest
      ih =>
    exact List.forall_mem_cons.2 ⟨⟨htarget, Operand.kind_token_of_ofToken? hoperand⟩, ih⟩

theorem Program.Derivation.sparesReserved {tokens : List Token} {program : Program}
    (h : Derivation tokens program)
    (htokens : ∀ token ∈ tokens, token.kind = .keyword ↔ token.lexeme ∈ reservedWords) :
    ∀ statement ∈ program, statement.SparesReserved := by
  intro statement hstatement
  obtain ⟨htarget, hvalue⟩ := h.kind_of_mem statement hstatement
  obtain ⟨htargetMem, hvalueMem⟩ := h.mem_tokens statement hstatement
  constructor
  · intro hreserved
    cases htarget.symm.trans ((htokens _ htargetMem).2 hreserved)
  · intro hreserved
    have hkeyword : statement.value.kind = .keyword :=
      hvalue.symm.trans ((htokens _ hvalueMem).2 hreserved)
    rcases statement.value.kind_eq_or with hnumber | hname
    · cases hnumber.symm.trans hkeyword
    · cases hname.symm.trans hkeyword

theorem Reader.recover_sparesReserved {tokens : List Token}
    (htokens : ∀ token ∈ tokens, token.kind = .keyword ↔ token.lexeme ∈ reservedWords) :
    ∀ statement ∈ (ofTokens tokens).recover.program, statement.SparesReserved := by
  intro statement hstatement
  obtain ⟨segment, hsegment, hderivation⟩ := exists_segment_of_mem_recover hstatement
  have hmem : ∀ token ∈ segment, token ∈ tokens := by
    intro token htoken
    have hflatten := List.mem_flatten_of_mem hsegment htoken
    rwa [segments, List.flatten_splitBy] at hflatten
  exact hderivation.sparesReserved (fun token htoken ↦ htokens token (hmem token htoken)) statement
    List.mem_cons_self

/-- A keyword is a reserved word that no word character follows. A reserved word that is read as a name
stands in front of a word character of another script, which is the error that comes next. Where a source
is read to its end, the keywords are therefore all of its reserved words, and the programs read or
recovered from it have none among their names and values. -/
theorem reserved_words_are_no_names (source : String) :
    (∀ count token, ((Lexer.ofSource source).after count).next.1 = some (.ok token) →
      ∃ before rest, source.toList = before ++ token.lexeme.toList ++ rest ∧
        token.position = .ofText before ∧
        (token.kind = .keyword → token.lexeme ∈ reservedWords ∧
          ∀ c ∈ rest.head?, isWordCharacter c = false) ∧
        (token.kind = .identifier → token.lexeme ∈ reservedWords →
          ∃ c later, rest = c :: later ∧ isWordCharacter c = true ∧ 128 ≤ c.toNat ∧
            ((Lexer.ofSource source).after count).next.2.next.1 =
              some (.error ⟨c, .ofText (before ++ token.lexeme.toList)⟩))) ∧
    ∀ tokens, (Lexer.ofSource source).tokenize = .ok tokens →
      (∀ token ∈ tokens, token.kind = .keyword ↔ token.lexeme ∈ reservedWords) ∧
      (∀ program, (Reader.ofTokens tokens).program = .ok program →
        ∀ statement ∈ program, statement.SparesReserved) ∧
      ∀ statement ∈ (Reader.ofTokens tokens).recover.program, statement.SparesReserved := by
  constructor
  · intro count token htoken
    obtain ⟨consumed, htracks⟩ :=
      Lexer.exists_tracks_after (Lexer.tracks_ofSource source) count
    obtain ⟨gap, rest, htext, hplace, hstop, hnext⟩ := htracks.next_token htoken
    refine ⟨_, rest, htext, hplace, fun hkind ↦ ?_, fun hkind hreserved ↦ ?_⟩
    · obtain ⟨rest', hfits, hnext'⟩ := Lexer.exists_fits_of_next htoken
      obtain rfl : rest = rest' :=
        congrArg (fun lexer : Lexer ↦ lexer.cursor.rest) (hnext.symm.trans hnext')
      rw [hkind] at hfits
      exact ⟨spells_keyword_iff.1 hfits.spells, hfits.ends⟩
    · obtain ⟨c, later, hnext', hword, hscript, herror⟩ :=
        Lexer.next_of_reserved_name htoken hkind hreserved
      have hrest : rest = c :: later :=
        congrArg (fun lexer : Lexer ↦ lexer.cursor.rest) (hnext.symm.trans hnext')
      rw [← hstop]
      exact ⟨c, later, hrest, hword, hscript, herror⟩
  · intro tokens htokens
    have hkinds : ∀ token ∈ tokens, token.kind = .keyword ↔ token.lexeme ∈ reservedWords :=
      fun token ↦ kind_eq_keyword_iff htokens
    refine ⟨hkinds, fun program hprogram ↦ ?_, Reader.recover_sparesReserved hkinds⟩
    exact (Reader.derivation_of_program hprogram).sparesReserved hkinds

/-- The last letter of the second word belongs to another script, and the word to no program. -/
example : (Lexer.ofSource "if ifé").remaining =
    ⟨[⟨.keyword, "if", ⟨0, 1, 1⟩⟩, ⟨.identifier, "if", ⟨3, 1, 4⟩⟩], some ⟨'é', ⟨5, 1, 6⟩⟩⟩ := by
  decide +kernel

end StraightLine
