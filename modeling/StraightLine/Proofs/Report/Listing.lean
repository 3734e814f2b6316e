import StraightLine.Proofs.Code.Disturbance
import StraightLine.Proofs.Report.Outcome
import StraightLine.Proofs.Symbol.Simulation
import StraightLine.Proofs.Token.Spacing

/-!
# What a listing of code means

The report of the last stage is a listing of three-address code, from which the code can be read
without the source. Carried out, it gives the variables the numbers that the source gives them, except
that a variable with the name of a temporary can lose its number to it, and so can those that take
theirs from it.
-/

namespace StraightLine

open Token

theorem spells_of_tokenize {source : String} {tokens : List Token}
    (h : (Lexer.ofSource source).tokenize = .ok tokens) :
    ∀ token ∈ tokens, token.kind.pattern.Spells token.lexeme.toList := by
  obtain ⟨-, hitems⟩ := Attempt.toExcept_eq_ok_iff.1 h
  intro token htoken
  rw [← hitems] at htoken
  obtain ⟨rest, hfits⟩ := exists_fits_of_mem_scan htoken
  exact hfits.spells

theorem bind_mapError_eq_ok_iff {ε ε' α β : Type} {result : Except ε α} {blame : ε → ε'}
    {next : α → Except ε' β} {b : β} :
    (result.mapError blame).bind next = .ok b ↔ ∃ a, result = .ok a ∧ next a = .ok b := by
  cases result <;> simp [Except.mapError, Except.bind]

/-- A report of the last stage is the listing of a sound program. -/
theorem exists_program_of_report {source text : String}
    (h : (report .ir source).outcome = .ok text) :
    ∃ tokens program, (Lexer.ofSource source).tokenize = .ok tokens ∧
      (Reader.ofTokens tokens).program = .ok program ∧ program.resolve.isSound = true ∧
      text = Text.listing (program.lower.map Code.Copy.render) := by
  rw [outcome_report] at h
  obtain ⟨tokens, htokens, hlater⟩ := bind_mapError_eq_ok_iff.1 h
  have hreader : outcomeOfReader .ir (.ofTokens tokens) = .ok text := hlater
  obtain ⟨program, hprogram, hlast⟩ := bind_mapError_eq_ok_iff.1 hreader
  refine ⟨tokens, program, htokens, hprogram, ?_⟩
  by_cases hsound : program.resolve.isSound = true
  · simp only [outcomeOfProgram, reduceCtorEq, if_false, if_pos hsound, Except.ok.injEq] at hlast
    exact ⟨hsound, hlast.symm⟩
  · simp [outcomeOfProgram, hsound] at hlast

/-- The code of a program that was read is spelled as it must be. -/
theorem isSpelled_lower {source : String} {tokens : List Token} {program : Program}
    (htokens : (Lexer.ofSource source).tokenize = .ok tokens)
    (hprogram : (Reader.ofTokens tokens).program = .ok program) :
    ∀ copy ∈ program.lower, copy.IsSpelled :=
  Code.isSpelled_of_mem_ofStatements (Reader.derivation_of_program hprogram)
    (spells_of_tokenize htokens) 1

/-- The listing of a program that was read is read back as its code. -/
theorem ofListing?_lower {source : String} {tokens : List Token} {program : Program}
    (htokens : (Lexer.ofSource source).tokenize = .ok tokens)
    (hprogram : (Reader.ofTokens tokens).program = .ok program) :
    Code.ofListing? (Text.listing (program.lower.map Code.Copy.render)) =
      some (program.lower.map Code.Copy.printed) :=
  Code.ofListing?_listing (isSpelled_lower htokens hprogram)

/-- A listing can be read back, and the code in it gives every name that is not disturbed the number
that the source gives it. These are all the names assigned to unless the source assigns to a variable
whose name is that of the temporary of a later statement. -/
theorem listing_means_source {source text : String} (h : (report .ir source).outcome = .ok text) :
    ∃ tokens program code,
      (Lexer.ofSource source).tokenize = .ok tokens ∧
      (Reader.ofTokens tokens).program = .ok program ∧
      Code.ofListing? text = some code ∧
      (∀ name, program.disturbed name = false →
        Code.execute .empty code (.name name) = program.execute .empty name) ∧
      (program.SparesTemporaries 1 → ∀ statement ∈ program, ∃ value,
        Code.execute .empty code (.name statement.name) = some value ∧
          program.execute .empty statement.name = some value) := by
  obtain ⟨tokens, program, htokens, hprogram, hsound, rfl⟩ := exists_program_of_report h
  have hskipped := Program.isSound_resolve_iff.1 hsound
  have hsame (name : String) (hname : program.disturbed name = false) :
      Code.execute .empty (program.lower.map Code.Copy.printed) (.name name) =
        program.execute .empty name := by
    rw [Program.execute_of_skipped_eq_nil hskipped]
    exact Code.store_execute_printed program (fun _ _ ↦ rfl) 1 name hname
  refine ⟨tokens, program, _, htokens, hprogram, ofListing?_lower htokens hprogram, hsame,
    fun hspares statement hmem ↦ ?_⟩
  have hvalue : program.execute .empty statement.name ≠ none := by
    rw [Program.execute_ne_none_iff, Program.performed_of_skipped_eq_nil hskipped]
    exact .inr (List.mem_map_of_mem hmem)
  have hname : program.disturbed statement.name = false := by
    rw [← Bool.not_eq_true]
    intro hdisturbed
    have hnone : ∀ name, (fun _ : String ↦ false) name = true → Store.empty name = none :=
      fun _ h ↦ absurd h Bool.false_ne_true
    exact hvalue <| Program.execute_eq_none_of_disturbFrom hskipped hspares (fun _ _ ↦ rfl) hnone
      statement.name hdisturbed
  obtain ⟨value, hvalue⟩ := Option.ne_none_iff_exists'.1 hvalue
  exact ⟨value, (hsame statement.name hname).trans hvalue, hvalue⟩

/-- A variable may have the name of its own temporary. -/
theorem listing_means_source_of_assignments :
    (report .ir "t1 = 5; x = t1;").outcome = .ok "t1 = 5\nt1 = t1\nt2 = t1\nx = t2\n" ∧
      ∃ code, Code.ofListing? "t1 = 5\nt1 = t1\nt2 = t1\nx = t2\n" = some code ∧
        Code.execute .empty code (.name "x") = some "5" := by
  let target : Token := ⟨.identifier, "t1", ⟨0, 1, 1⟩⟩
  let other : Token := ⟨.identifier, "x", ⟨8, 1, 9⟩⟩
  let number : Token := ⟨.number, "5", ⟨5, 1, 6⟩⟩
  let source : Token := ⟨.identifier, "t1", ⟨12, 1, 13⟩⟩
  have hreport : (report .ir "t1 = 5; x = t1;").outcome =
      .ok "t1 = 5\nt1 = t1\nt2 = t1\nx = t2\n" := by decide +kernel
  have htokens : (Lexer.ofSource "t1 = 5; x = t1;").tokenize =
      .ok [target, ⟨.assign, "=", ⟨3, 1, 4⟩⟩, number, ⟨.semicolon, ";", ⟨6, 1, 7⟩⟩,
        other, ⟨.assign, "=", ⟨10, 1, 11⟩⟩, source, ⟨.semicolon, ";", ⟨14, 1, 15⟩⟩] := by
    decide +kernel
  refine ⟨hreport, ?_⟩
  obtain ⟨tokens, program, code, htokens', hprogram, hcode, -, hspares⟩ :=
    listing_means_source hreport
  obtain rfl := Except.ok.inj (htokens'.symm.trans htokens)
  obtain rfl : program = [⟨target, .number number⟩, ⟨other, .identifier source⟩] :=
    Except.ok.inj (hprogram.symm.trans (by decide +kernel))
  obtain ⟨value, hlisting, hsource⟩ := hspares (by decide) ⟨other, .identifier source⟩ (by simp)
  exact ⟨code, hcode, hlisting.trans (hsource.symm.trans (by decide))⟩

/-- The temporary of a statement can take the number of a variable that an earlier one assigned. -/
theorem listing_loses_number :
    ¬ ∀ (source text : String) (tokens : List Token) (program : Program) (code : List Code.Copy),
      (report .ir source).outcome = .ok text →
      (Lexer.ofSource source).tokenize = .ok tokens →
      (Reader.ofTokens tokens).program = .ok program →
      Code.ofListing? text = some code →
      ∀ statement ∈ program,
        Code.execute .empty code (.name statement.name) = program.execute .empty statement.name := by
  intro h
  let target : Token := ⟨.identifier, "t2", ⟨0, 1, 1⟩⟩
  let other : Token := ⟨.identifier, "x", ⟨8, 1, 9⟩⟩
  let number : Token := ⟨.number, "1", ⟨5, 1, 6⟩⟩
  let later : Token := ⟨.number, "2", ⟨12, 1, 13⟩⟩
  have hsame := h "t2 = 1; x = 2;" "t1 = 1\nt2 = t1\nt2 = 2\nx = t2\n"
    [target, ⟨.assign, "=", ⟨3, 1, 4⟩⟩, number, ⟨.semicolon, ";", ⟨6, 1, 7⟩⟩,
      other, ⟨.assign, "=", ⟨10, 1, 11⟩⟩, later, ⟨.semicolon, ";", ⟨13, 1, 14⟩⟩]
    [⟨target, .number number⟩, ⟨other, .number later⟩]
    [⟨.name "t1", .literal "1"⟩, ⟨.name "t2", .name "t1"⟩, ⟨.name "t2", .literal "2"⟩,
      ⟨.name "x", .name "t2"⟩]
    (by decide +kernel) (by decide +kernel) (by decide +kernel) (by decide +kernel)
    ⟨target, .number number⟩ (by simp)
  exact absurd hsame (by decide +kernel)

end StraightLine
