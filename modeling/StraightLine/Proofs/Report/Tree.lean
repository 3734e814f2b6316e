import StraightLine.Proofs.Report.Course
import StraightLine.Proofs.Token.Order
import StraightLine.Proofs.Token.Writing

/-!
# Trees taken back as tokens

The trees of a program that was read are a listing again. Each line of it is read as five tokens, of which
the third and the fourth are the target and the value of the statement, with their kinds and texts. From
its trees one can therefore tell a program up to the places of its tokens: programs have the same report
exactly if they have the same outline.
-/

namespace StraightLine

open Text Token

/-! ## Listings line by line -/

namespace Token

theorem IsReadAs.unique {source : String} {spellings others : List (Kind × String)}
    (h : IsReadAs source spellings) (hother : IsReadAs source others) : spellings = others := by
  obtain ⟨tokens, htokens, rfl⟩ := h
  obtain ⟨tokens', htokens', rfl⟩ := hother
  rw [Except.ok.inj (htokens.symm.trans htokens')]

/-- The tokens of a text on one line are on the first line. -/
theorem line_eq_one {source : String} {tokens : List Token} (hsource : IsLine source)
    (h : (Lexer.ofSource source).tokenize = .ok tokens) :
    ∀ token ∈ tokens, token.position.line = 1 := by
  intro token htoken
  obtain ⟨index, hindex, rfl⟩ := List.getElem_of_mem htoken
  obtain ⟨before, behind, htext, hstands, -⟩ := exists_split_of_tokenize h hindex
  have hfeed : '\n' ∉ before := by
    intro hmem
    apply hsource
    rw [htext, List.append_assoc]
    exact List.mem_append_left _ hmem
  rw [hstands.place, Position.ofText, List.count_eq_zero.2 hfeed]

/-- The kinds and texts of tokens, with the lines on which they stand. -/
def spellingsOnLines (tokens : List Token) : List (ℕ × Kind × String) :=
  tokens.map fun token ↦ (token.position.line, token.spelling)

theorem spellingsOnLines_of_isLine {source : String} {tokens : List Token} (hsource : IsLine source)
    (h : (Lexer.ofSource source).tokenize = .ok tokens) :
    spellingsOnLines tokens = (tokens.map spelling).map (1, ·) := by
  unfold spellingsOnLines
  rw [List.map_map]
  apply List.map_congr_left
  intro token htoken
  rw [line_eq_one hsource h token htoken, Function.comp_apply]

/-- Behind a line feed tokens stand one line further down. -/
theorem spellingsOnLines_behind {entry : String} (hentry : IsLine entry) (tokens : List Token) :
    spellingsOnLines (tokens.map (Token.relocate (.behind (entry ++ "\n").toList))) =
      (spellingsOnLines tokens).map (Prod.map (· + 1) id) := by
  have hcount : (entry ++ "\n").toList.count '\n' = 1 := by
    rw [String.toList_append, List.count_append, List.count_eq_zero.2 hentry]
    rfl
  unfold spellingsOnLines
  rw [List.map_map, List.map_map]
  apply List.map_congr_left
  intro token _
  exact congrArg (fun count ↦ (token.position.line + count, token.spelling)) hcount

/-- A listing of texts on one line each is read as these texts are, each on its own line. -/
theorem exists_tokens_of_listing {α : Type} {items : List α} {text : α → String}
    {spellings : α → List (Kind × String)}
    (hread : ∀ item ∈ items, IsReadAs (text item) (spellings item))
    (hline : ∀ item ∈ items, IsLine (text item)) :
    ∃ tokens, (Lexer.ofSource (listing (items.map text))).tokenize = .ok tokens ∧
      spellingsOnLines tokens =
        (items.zipIdx 1).flatMap fun (item, line) ↦ (spellings item).map (line, ·) := by
  induction items with
  | nil =>
    have hempty : (Lexer.ofSource (listing [])).tokenize = .ok [] := by decide +kernel
    exact ⟨[], hempty, rfl⟩
  | cons item items ih =>
    obtain ⟨hitem, hitems⟩ := List.forall_mem_cons.1 hread
    obtain ⟨hfirst, hlines⟩ := List.forall_mem_cons.1 hline
    obtain ⟨tokens, htokens, hspellings⟩ := hitem
    obtain ⟨others, hothers, hlater⟩ := ih hitems hlines
    let f := Position.behind (text item ++ "\n").toList
    refine ⟨tokens ++ others.map (Token.relocate f), ?_, ?_⟩
    · rw [List.map_cons, tokenize_listing_cons, htokens, hothers]
      rfl
    · have hshift : items.zipIdx 2 = (items.zipIdx 1).map fun (item, line) ↦ (item, line + 1) :=
        List.zipIdx_succ
      calc
        spellingsOnLines (tokens ++ others.map (Token.relocate f)) =
            spellingsOnLines tokens ++ spellingsOnLines (others.map (Token.relocate f)) :=
          List.map_append
        _ = (spellings item).map (1, ·) ++ (spellingsOnLines others).map (Prod.map (· + 1) id) := by
          rw [spellingsOnLines_of_isLine hfirst htokens, hspellings, spellingsOnLines_behind hfirst]
        _ = (spellings item).map (1, ·) ++
            (items.zipIdx 2).flatMap fun (item, line) ↦ (spellings item).map (line, ·) := by
          rw [hlater, hshift, List.map_flatMap, List.flatMap_map]
          simp only [List.map_map]
          rfl
        _ = _ := by rw [List.zipIdx_cons, List.flatMap_cons]

end Token

/-! ## Trees -/

namespace Assignment

def spellings (statement : Assignment) : List (Kind × String) :=
  [(.leftParen, "("), (.assign, "="), statement.target.spelling, statement.value.token.spelling,
    (.rightParen, ")")]

/-- What a statement says: the name assigned to, the kind of the value and its text. -/
def outline (statement : Assignment) : String × Kind × String :=
  (statement.name, statement.value.kind, statement.value.lexeme)

/-- Whether the target and the value of a statement are tokens as they are read from sources. -/
structure IsSpelled (statement : Assignment) : Prop where
  targetKind : statement.target.kind = .identifier
  valueKind : statement.value.token.kind = statement.value.kind
  target : statement.target.kind.pattern.Spells statement.target.lexeme.toList
  value : statement.value.token.kind.pattern.Spells statement.value.lexeme.toList
  unreserved : statement.SparesReserved

theorem toList_render (statement : Assignment) :
    statement.render.toList = '(' :: '=' :: ' ' ::
      (statement.name.toList ++ ' ' :: (statement.value.lexeme.toList ++ [')'])) := by
  have hrender : statement.render =
      "(= " ++ statement.name ++ " " ++ statement.value.lexeme ++ ")" := rfl
  simp [hrender]

/-- The text of a tree is decided by what the statement says. -/
theorem render_eq_of_outline_eq {statement other : Assignment} (h : statement.outline = other.outline) :
    statement.render = other.render := by
  obtain ⟨hname, hvalue⟩ := Prod.mk.inj h
  unfold render
  rw [hname, (Prod.mk.inj hvalue).2]

namespace IsSpelled

variable {statement other : Assignment}

/-- The tree of a statement is read as its five tokens. -/
theorem isReadAs_render (h : statement.IsSpelled) : IsReadAs statement.render statement.spellings := by
  have hspace : Blank [' '] := by decide
  have hclose := Written.mark .rightParen ")" blank_nil rfl rfl .nil
  have hvalue : Fits statement.value.token.kind statement.value.lexeme.toList [')'] := by
    have hkind : statement.value.token.kind = .number ∨ statement.value.token.kind = .identifier := by
      rw [h.valueKind]
      exact statement.value.kind_eq_or
    exact .of_word hkind h.value h.unreserved.2 (by decide) (by decide) []
  have htarget : Fits statement.target.kind statement.name.toList
      (' ' :: (statement.value.lexeme.toList ++ [')'])) :=
    .of_word (.inr h.targetKind) h.target h.unreserved.1 (by decide) (by decide) _
  have hwords := Written.cons hspace htarget (Written.cons hspace hvalue hclose)
  apply Written.isReadAs
  rw [toList_render]
  exact Written.mark .leftParen "(" blank_nil rfl rfl (Written.mark .assign "=" blank_nil rfl rfl hwords)

/-- Statements say the same if their trees have the same tokens. -/
theorem outline_eq_of_spellings_eq (h : statement.IsSpelled) (hother : other.IsSpelled)
    (hsame : statement.spellings = other.spellings) : statement.outline = other.outline := by
  simp only [spellings, List.cons.injEq, true_and, and_true] at hsame
  obtain ⟨htarget, hvalue⟩ := hsame
  have hname : statement.name = other.name := congrArg Prod.snd htarget
  have hkind : statement.value.kind = other.value.kind := by
    rw [← h.valueKind, ← hother.valueKind]
    exact congrArg Prod.fst hvalue
  have hlexeme : statement.value.lexeme = other.value.lexeme := congrArg Prod.snd hvalue
  unfold outline
  rw [hname, hkind, hlexeme]

end IsSpelled

end Assignment

/-! ## Programs -/

namespace Program

variable {program other : Program}

/-- The trees of a program are decided by what its statements say. -/
theorem render_eq_of_outline_eq (h : program.map Assignment.outline = other.map Assignment.outline) :
    program.render = other.render := by
  have hentries : program.map Assignment.render = other.map Assignment.render := by
    rw [← List.forall₂_eq_eq_eq, List.forall₂_map_left_iff, List.forall₂_map_right_iff] at h ⊢
    apply h.imp
    intro statement later hsame
    exact Assignment.render_eq_of_outline_eq hsame
  unfold render
  rw [hentries]

/-- The tokens of the trees can be told apart because each tree has as many. -/
theorem map_outline_eq_of_flatMap_eq (h : ∀ statement ∈ program, statement.IsSpelled)
    (hother : ∀ statement ∈ other, statement.IsSpelled)
    (hsame : program.flatMap Assignment.spellings = other.flatMap Assignment.spellings) :
    program.map Assignment.outline = other.map Assignment.outline := by
  induction program generalizing other with
  | nil =>
    cases other with
    | nil => rfl
    | cons later others => cases hsame
  | cons statement program ih =>
    cases other with
    | nil => cases hsame
    | cons later others =>
      obtain ⟨hstatement, hprogram⟩ := List.forall_mem_cons.1 h
      obtain ⟨hlater, hothers⟩ := List.forall_mem_cons.1 hother
      rw [List.flatMap_cons, List.flatMap_cons] at hsame
      obtain ⟨hfirst, hrest⟩ := List.append_inj hsame rfl
      rw [List.map_cons, List.map_cons, hstatement.outline_eq_of_spellings_eq hlater hfirst,
        ih hprogram hothers hrest]

theorem map_outline_eq_of_render_eq (h : ∀ statement ∈ program, statement.IsSpelled)
    (hother : ∀ statement ∈ other, statement.IsSpelled) (hsame : program.render = other.render) :
    program.map Assignment.outline = other.map Assignment.outline := by
  have hread := isReadAs_listing fun statement hmem ↦ (h statement hmem).isReadAs_render
  have hreadOther := isReadAs_listing fun statement hmem ↦ (hother statement hmem).isReadAs_render
  have htexts : listing (program.map Assignment.render) = listing (other.map Assignment.render) := hsame
  rw [htexts] at hread
  exact map_outline_eq_of_flatMap_eq h hother (hread.unique hreadOther)

end Program

section Source

variable {source : String} {tokens : List Token} {program : Program}

theorem isSpelled_of_program (htokens : (Lexer.ofSource source).tokenize = .ok tokens)
    (hprogram : (Reader.ofTokens tokens).program = .ok program) :
    ∀ statement ∈ program, statement.IsSpelled := by
  intro statement hstatement
  have hderivation : Program.Derivation tokens program := Reader.derivation_of_program hprogram
  obtain ⟨htarget, hvalue⟩ := hderivation.mem_tokens statement hstatement
  have hspares : ∀ statement ∈ program, statement.SparesReserved :=
    hderivation.sparesReserved fun _ ↦ kind_eq_keyword_iff htokens
  obtain ⟨htargetKind, hvalueKind⟩ := hderivation.kind_of_mem statement hstatement
  exact ⟨htargetKind, hvalueKind, spells_of_tokenize htokens _ htarget,
    spells_of_tokenize htokens _ hvalue, hspares statement hstatement⟩

theorem outcome_report_parse (htokens : (Lexer.ofSource source).tokenize = .ok tokens)
    (hprogram : (Reader.ofTokens tokens).program = .ok program) :
    (report .parse source).outcome = .ok (program.render ++ "Parse OK\n") := by
  rw [outcome_report_of_program htokens hprogram (by decide), outcomeOfProgram, if_pos rfl]

end Source

/-- The trees of a program that was read are read as five tokens on each line: two marks, the target and
the value of the statement with their kinds and texts, and a mark. The reports on two programs are the
same exactly if the programs assign values of the same kinds and texts to the same names in order. -/
theorem trees_are_faithful {source : String} {tokens : List Token} {program : Program}
    (htokens : (Lexer.ofSource source).tokenize = .ok tokens)
    (hprogram : (Reader.ofTokens tokens).program = .ok program) :
    (∃ trees, (Lexer.ofSource program.render).tokenize = .ok trees ∧
      spellingsOnLines trees = (program.zipIdx 1).flatMap fun (statement, line) ↦
        statement.spellings.map (line, ·)) ∧
    (report .parse source).outcome = .ok (program.render ++ "Parse OK\n") ∧
    ∀ source' tokens' program', (Lexer.ofSource source').tokenize = .ok tokens' →
      (Reader.ofTokens tokens').program = .ok program' →
      ((report .parse source).outcome = (report .parse source').outcome ↔
        program.map Assignment.outline = program'.map Assignment.outline) := by
  have hspelled := isSpelled_of_program htokens hprogram
  have hlines : ∀ statement ∈ program, IsLine statement.render := by
    intro statement hstatement
    obtain ⟨hname, hvalue⟩ := isLine_of_program htokens hprogram statement hstatement
    exact Assignment.isLine_render hname hvalue
  have hreport := outcome_report_parse htokens hprogram
  refine ⟨?_, hreport, ?_⟩
  · exact exists_tokens_of_listing (fun statement hmem ↦ (hspelled statement hmem).isReadAs_render)
      hlines
  · intro source' tokens' program' htokens' hprogram'
    rw [hreport, outcome_report_parse htokens' hprogram', Except.ok.injEq, String.append_left_inj]
    constructor
    · exact Program.map_outline_eq_of_render_eq hspelled (isSpelled_of_program htokens' hprogram')
    · exact Program.render_eq_of_outline_eq

/-- Neither white space nor line feeds show in trees. -/
theorem trees_are_faithful_on_two_lines :
    (∃ trees, (Lexer.ofSource "(= rate 0.5)\n(= x rate)\n").tokenize = .ok trees ∧
      spellingsOnLines trees =
        [(1, .leftParen, "("), (1, .assign, "="), (1, .identifier, "rate"), (1, .number, "0.5"),
          (1, .rightParen, ")"), (2, .leftParen, "("), (2, .assign, "="), (2, .identifier, "x"),
          (2, .identifier, "rate"), (2, .rightParen, ")")]) ∧
    (report .parse "rate=0.5; x\n=rate;").outcome =
      .ok "(= rate 0.5)\n(= x rate)\nParse OK\n" ∧
    (report .parse "rate=0.5; x\n=rate;").outcome =
      (report .parse "rate = 0.5;x = rate ;").outcome := by
  let rate : Token := ⟨.identifier, "rate", ⟨0, 1, 1⟩⟩
  let half : Token := ⟨.number, "0.5", ⟨5, 1, 6⟩⟩
  let x : Token := ⟨.identifier, "x", ⟨10, 1, 11⟩⟩
  let value : Token := ⟨.identifier, "rate", ⟨13, 2, 2⟩⟩
  have htokens : (Lexer.ofSource "rate=0.5; x\n=rate;").tokenize =
      .ok [rate, ⟨.assign, "=", ⟨4, 1, 5⟩⟩, half, ⟨.semicolon, ";", ⟨8, 1, 9⟩⟩,
        x, ⟨.assign, "=", ⟨12, 2, 1⟩⟩, value, ⟨.semicolon, ";", ⟨17, 2, 6⟩⟩] := by
    decide +kernel
  obtain ⟨htrees, hreport, hsame⟩ :=
    @trees_are_faithful _ _ [⟨rate, .number half⟩, ⟨x, .identifier value⟩] htokens
      (by decide +kernel)
  let rate' : Token := ⟨.identifier, "rate", ⟨0, 1, 1⟩⟩
  let half' : Token := ⟨.number, "0.5", ⟨7, 1, 8⟩⟩
  let x' : Token := ⟨.identifier, "x", ⟨11, 1, 12⟩⟩
  let value' : Token := ⟨.identifier, "rate", ⟨15, 1, 16⟩⟩
  have htokens' : (Lexer.ofSource "rate = 0.5;x = rate ;").tokenize =
      .ok [rate', ⟨.assign, "=", ⟨5, 1, 6⟩⟩, half', ⟨.semicolon, ";", ⟨10, 1, 11⟩⟩,
        x', ⟨.assign, "=", ⟨13, 1, 14⟩⟩, value', ⟨.semicolon, ";", ⟨20, 1, 21⟩⟩] := by
    decide +kernel
  have hequal := (hsame _ _ [⟨rate', .number half'⟩, ⟨x', .identifier value'⟩] htokens'
    (by decide +kernel)).2 rfl
  exact ⟨htrees, hreport, hequal⟩

end StraightLine
