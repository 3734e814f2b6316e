import StraightLine.Proofs.Code.Closing
import StraightLine.Proofs.Report.Definedness

/-!
# Listings taken back as sources

The last report on a source is a listing of code. With its lines closed it is a source again, and one that
no stage refuses: as the code reads only what was written, even with its temporaries taken for variables,
the program that is read from the listing reads no name before it is declared.
-/

namespace StraightLine

open Text Token

namespace Code

variable {written : List Address} {store : Store}

/-- Statements that say what some code says find a value for each operand if the code reads what was
written. -/
theorem Fills.skipped_eq_nil {code : List Copy} {program : Program}
    (hprogram : List.Forall₂ Copy.IsReadAs code program)
    (hcode : ∀ copy ∈ code, copy.destination.kind = .identifier) (h : Fills written store)
    (hreads : ReadsWritten written (code.map Copy.printed)) : program.skipped store = [] := by
  induction hprogram generalizing written store with
  | nil => rfl
  | @cons copy statement code program hread hlater ih =>
    obtain ⟨hcopy, hrest⟩ := List.forall_mem_cons.1 hcode
    rw [List.map_cons, readsWritten_cons] at hreads
    obtain ⟨hfirst, hreads⟩ := hreads
    have hsource : (∃ text, ofOperand statement.value = .literal text) ∨
        ofOperand statement.value ∈ written := by
      rw [hread.ofOperand_eq]
      exact hfirst
    obtain ⟨value, hvalue⟩ := (h.value?_iff statement.value).2 hsource
    rw [Program.skipped_cons_of_some hvalue, Assignment.execute_of_some hvalue]
    have hname : copy.printed.destination = .name statement.name := by
      rw [hread.name_eq, ← printed_of_identifier hcopy]
      rfl
    rw [hname] at hreads
    exact ih hrest (h.set (by simp) value) hreads

end Code

/-- A sound program declares the targets of all its statements. -/
theorem Program.mem_names_resolve {program : Program} (h : program.resolve.isSound = true)
    {statement : Assignment} (hstatement : statement ∈ program) :
    statement.name ∈ program.resolve.symbols.names := by
  have hdescribes : program.resolve.symbols.Describes program :=
    (Resolution.ofStatements_describes .empty program).1
  rw [hdescribes.names, List.mem_eraseDups, performed_of_skipped_eq_nil (isSound_resolve_iff.1 h)]
  exact List.mem_map_of_mem hstatement

section Closing

variable {source : String} {tokens : List Token} {program other : Program}

/-- The closed listing of a program that was read is read as a program with a statement for each copy. -/
theorem exists_program_of_closeLines (htokens : (Lexer.ofSource source).tokenize = .ok tokens)
    (hprogram : (Reader.ofTokens tokens).program = .ok program) :
    ∃ tokens other,
      (Lexer.ofSource (closeLines (listing (program.lower.map Code.Copy.render)))).tokenize =
        .ok tokens ∧
      (Reader.ofTokens tokens).program = .ok other ∧
      List.Forall₂ Code.Copy.IsReadAs program.lower other := by
  have hspelled := isSpelled_lower htokens hprogram
  have hspares : ∀ statement ∈ program, statement.SparesReserved :=
    (Reader.derivation_of_program hprogram).sparesReserved fun _ ↦ kind_eq_keyword_iff htokens
  have hunreserved := Code.isUnreserved_of_mem_lower hspares
  have hlines : ∀ entry ∈ program.lower.map Code.Copy.render, '\n' ∉ entry.toList := by
    rw [List.forall_mem_map]
    intro copy hcopy
    exact Code.lineFeed_not_mem_render (hspelled copy hcopy)
  have hread : IsReadAs (listing (program.lower.map fun copy ↦ copy.render ++ ";"))
      (program.lower.flatMap Code.Copy.spellings) := by
    apply isReadAs_listing
    intro copy hcopy
    exact Code.isReadAs_render (hspelled copy hcopy) (hunreserved copy hcopy)
  obtain ⟨tokens, htokens, hspellings⟩ := hread
  obtain ⟨other, hderivation, hstatements⟩ := Code.exists_derivation_of_spellings
    (fun copy hcopy ↦ (hspelled copy hcopy).kind_destination) hspellings
  refine ⟨tokens, other, ?_, Reader.program_of_derivation hderivation _, hstatements⟩
  rw [closeLines_listing hlines, List.map_map]
  exact htokens

/-- Statements that say what the code of a sound program says make up a sound program. -/
theorem isSound_of_isReadAs (hspelled : ∀ copy ∈ program.lower, copy.IsSpelled)
    (hsound : program.resolve.isSound = true)
    (h : List.Forall₂ Code.Copy.IsReadAs program.lower other) : other.resolve.isSound = true := by
  have hreads := ((Code.readsWritten_lower_iff program).2 hsound).printed
  apply Program.isSound_resolve_iff.2
  exact Code.fills_empty.skipped_eq_nil h
    (fun copy hcopy ↦ (hspelled copy hcopy).kind_destination) hreads

/-- They declare all names that the program declares. -/
theorem names_subset_of_isReadAs (hsound : other.resolve.isSound = true)
    (h : List.Forall₂ Code.Copy.IsReadAs program.lower other) :
    program.resolve.symbols.names ⊆ other.resolve.symbols.names := by
  intro name hname
  obtain ⟨statement, hstatement, rfl⟩ := List.mem_map.1 (program.names_resolve_subset hname)
  obtain ⟨copy, hcopy, hdestination⟩ := Code.exists_copy_of_mem hstatement
  have hprinted : statement.name ∈ program.lower.map fun copy ↦ copy.destination.render :=
    List.mem_map.2 ⟨copy, hcopy, congrArg Code.Address.render hdestination⟩
  rw [← Code.map_name_eq h] at hprinted
  obtain ⟨later, hlater, hsame⟩ := List.mem_map.1 hprinted
  rw [← hsame]
  exact Program.mem_names_resolve hsound hlater

end Closing

/-- With a semicolon in front of each line feed the last report on a source is a source that no stage
refuses. Its program has two statements for each statement of the source: their targets and values are
what the report prints of the destinations and sources of the code. All names that the source declares
are declared again. -/
theorem listing_is_program {source text : String} (h : (report .ir source).outcome = .ok text) :
    (∀ stage, ∃ later, (report stage (closeLines text)).outcome = .ok later) ∧
    ∃ tokens program tokens' program',
      (Lexer.ofSource source).tokenize = .ok tokens ∧
      (Reader.ofTokens tokens).program = .ok program ∧
      (Lexer.ofSource (closeLines text)).tokenize = .ok tokens' ∧
      (Reader.ofTokens tokens').program = .ok program' ∧
      program'.length = 2 * program.length ∧
      List.Forall₂ Code.Copy.IsReadAs program.lower program' ∧
      program.resolve.symbols.names ⊆ program'.resolve.symbols.names := by
  obtain ⟨tokens, program, htokens, hprogram, hsound, rfl⟩ := exists_program_of_report h
  obtain ⟨tokens', program', htokens', hprogram', hread⟩ :=
    exists_program_of_closeLines htokens hprogram
  have hsound' := isSound_of_isReadAs (isSpelled_lower htokens hprogram) hsound hread
  have hlength : program'.length = 2 * program.length := by
    rw [← hread.length_eq, Program.lower, Code.length_ofStatements]
  constructor
  · exact exists_report_of_sound htokens' hprogram' hsound'
  · exact ⟨tokens, program, tokens', program', htokens, hprogram, htokens', hprogram', hlength, hread,
      names_subset_of_isReadAs hsound' hread⟩

/-- The variable `t1` and the first temporary are one name in the listing. -/
theorem listing_is_program_of_assignments :
    (report .ir "t1 = 5; x = t1;").outcome = .ok "t1 = 5\nt1 = t1\nt2 = t1\nx = t2\n" ∧
      (∀ stage, ∃ later,
        (report stage "t1 = 5;\nt1 = t1;\nt2 = t1;\nx = t2;\n").outcome = .ok later) ∧
      ∃ tokens program,
        (Lexer.ofSource "t1 = 5;\nt1 = t1;\nt2 = t1;\nx = t2;\n").tokenize = .ok tokens ∧
        (Reader.ofTokens tokens).program = .ok program ∧ program.length = 4 ∧
        ["t1", "x"] ⊆ program.resolve.symbols.names := by
  have hreport : (report .ir "t1 = 5; x = t1;").outcome =
      .ok "t1 = 5\nt1 = t1\nt2 = t1\nx = t2\n" := by decide +kernel
  have hclosed : closeLines "t1 = 5\nt1 = t1\nt2 = t1\nx = t2\n" =
      "t1 = 5;\nt1 = t1;\nt2 = t1;\nx = t2;\n" := by decide +kernel
  obtain ⟨hstages, tokens, program, tokens', program', htokens, hprogram, htokens', hprogram', hlength,
    -, hnames⟩ := listing_is_program hreport
  rw [hclosed] at hstages htokens'
  have hsource : ((Lexer.ofSource "t1 = 5; x = t1;").tokenize.toOption.bind fun tokens ↦
      (Reader.ofTokens tokens).program.toOption.map fun program ↦
        (program.length, program.resolve.symbols.names)) = some (2, ["t1", "x"]) := by decide +kernel
  rw [htokens, Except.toOption, Option.bind_some, hprogram, Except.toOption, Option.map_some,
    Option.some.injEq, Prod.mk.injEq] at hsource
  rw [hsource.1] at hlength
  rw [hsource.2] at hnames
  exact ⟨hreport, hstages, tokens', program', htokens', hprogram', hlength, hnames⟩

end StraightLine
