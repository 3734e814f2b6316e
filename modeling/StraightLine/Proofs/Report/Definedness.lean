import StraightLine.Proofs.Report.Course

/-!
# Code that reads only what was written

The resolution of names goes through a program and the machine through its code. A program is sound
exactly if its code reads no address that no earlier copy has written: up to the first faulty statement
the names declared are the names written, and the fault is a reading of a name that is neither. As
unsound programs are not lowered, a listing never holds such a reading.
-/

namespace StraightLine

namespace Code

def Copy.ReadsFrom (written : List Address) (copy : Copy) : Prop :=
  (∃ text, copy.source = .literal text) ∨ copy.source ∈ written

/-- Whether each copy reads a literal or an address already written: one of those given, or the
destination of an earlier copy. -/
def ReadsWritten (written : List Address) (code : List Copy) : Prop :=
  ∀ before copy after, code = before ++ copy :: after →
    copy.ReadsFrom (written ++ before.map Copy.destination)

theorem readsWritten_nil (written : List Address) : ReadsWritten written [] := by
  intro before copy after hcode
  simp at hcode

theorem readsWritten_cons {written : List Address} {copy : Copy} {code : List Copy} :
    ReadsWritten written (copy :: code) ↔
      copy.ReadsFrom written ∧ ReadsWritten (written ++ [copy.destination]) code := by
  constructor
  · intro h
    refine ⟨?_, fun before later after hcode ↦ ?_⟩
    · simpa using h [] copy code rfl
    · simpa using h (copy :: before) later after (congrArg (copy :: ·) hcode)
  · intro h before later after hcode
    obtain ⟨hfirst, hrest⟩ := h
    cases before with
    | nil =>
      cases hcode
      simpa using hfirst
    | cons first before =>
      cases hcode
      simpa using hrest before later after rfl

/-- The copy from the temporary reads what the copy before it wrote. -/
theorem readsWritten_ofAssignment {written : List Address} {number : Nat} {statement : Assignment}
    {code : List Copy} :
    ReadsWritten written (ofAssignment number statement ++ code) ↔
      ((∃ text, ofOperand statement.value = .literal text) ∨ ofOperand statement.value ∈ written) ∧
        ReadsWritten (written ++ [.temporary number, .name statement.name]) code := by
  simp [ofAssignment, readsWritten_cons, Copy.ReadsFrom]

/-! ## Soundness -/

def Fills (written : List Address) (store : Store) : Prop :=
  ∀ name, .name name ∈ written ↔ ∃ value, store name = some value

variable {written : List Address} {store : Store}

theorem Fills.value?_iff (h : Fills written store) (operand : Operand) :
    (∃ value, operand.value? store = some value) ↔
      (∃ text, ofOperand operand = .literal text) ∨ ofOperand operand ∈ written := by
  cases operand with
  | number token => simp [Operand.value?, ofOperand]
  | identifier token => simp [Operand.value?, ofOperand, h token.lexeme]

theorem fills_empty : Fills [] .empty := by
  intro name
  simp [Store.empty]

/-- What else is written does not matter as long as it is not a name. -/
theorem Fills.set (h : Fills written store) {more : List Address} {name : String}
    (hmore : ∀ other, .name other ∈ more ↔ other = name) (value : String) :
    Fills (written ++ more) (store.set name (some value)) := by
  intro other
  rw [List.mem_append, hmore, Store.set]
  by_cases hother : other = name
  · simp [hother]
  · simp [hother, h other]

/-- The code of a program reads what was written if the program passes over no statement. -/
theorem Fills.readsWritten_iff (h : Fills written store) (number : Nat) (program : Program) :
    ReadsWritten written (ofStatements number program) ↔ program.skipped store = [] := by
  induction program generalizing written store number with
  | nil => exact iff_of_true (readsWritten_nil written) rfl
  | cons statement program ih =>
    rw [ofStatements, readsWritten_ofAssignment, Program.skipped_cons_eq_nil_iff, h.value?_iff]
    -- past an operand that can be read both sides go on with one more name written
    apply and_congr_right
    intro hvalue
    obtain ⟨value, hvalue⟩ := (h.value?_iff statement.value).2 hvalue
    rw [Assignment.execute_of_some hvalue]
    exact ih (h.set (by simp) value) (number + 1)

theorem readsWritten_lower_iff (program : Program) :
    ReadsWritten [] program.lower ↔ program.resolve.isSound = true :=
  (fills_empty.readsWritten_iff 1 program).trans Program.isSound_resolve_iff.symm

/-! ## Listings -/

/-- Code that reads what was written does so when its temporaries are taken for variables. -/
theorem ReadsWritten.printed {code : List Copy} (h : ReadsWritten [] code) :
    ReadsWritten [] (code.map Copy.printed) := by
  intro before copy after hcode
  obtain ⟨before, rest, rfl, rfl, hrest⟩ := List.map_eq_append_iff.1 hcode
  obtain ⟨copy, after, rfl, rfl, rfl⟩ := List.map_eq_cons_iff.1 hrest
  rcases h before copy after rfl with ⟨text, hsource⟩ | hsource
  · exact .inl ⟨text, congrArg Address.printed hsource⟩
  · obtain ⟨earlier, hearlier, hdestination⟩ := List.mem_map.1 hsource
    refine .inr (List.mem_map.2 ⟨earlier.printed, List.mem_map_of_mem hearlier, ?_⟩)
    exact congrArg Address.printed hdestination

end Code

open Token

/-- A program is sound exactly if its code reads nothing but literals and what was written before. The
sources with a report of the last stage are those with such a program, and the code printed in the
report, its temporaries taken for variables, reads only what was written as well. -/
theorem sound_code_reads_written :
    (∀ program : Program,
      program.resolve.isSound = true ↔ Code.ReadsWritten [] program.lower) ∧
    ∀ source text, (report .ir source).outcome = .ok text ↔
      ∃ tokens program code, (Lexer.ofSource source).tokenize = .ok tokens ∧
        (Reader.ofTokens tokens).program = .ok program ∧
        text = Text.listing (program.lower.map Code.Copy.render) ∧
        Code.ReadsWritten [] program.lower ∧
        Code.ofListing? text = some code ∧ Code.ReadsWritten [] code := by
  refine ⟨fun program ↦ (Code.readsWritten_lower_iff program).symm, fun source text ↦ ?_⟩
  constructor
  · intro h
    obtain ⟨tokens, program, htokens, hprogram, hsound, rfl⟩ := exists_program_of_report h
    have hreads := (Code.readsWritten_lower_iff program).2 hsound
    exact ⟨tokens, program, _, htokens, hprogram, rfl, hreads, ofListing?_lower htokens hprogram,
      hreads.printed⟩
  · intro h
    obtain ⟨tokens, program, code, htokens, hprogram, rfl, hreads, -⟩ := h
    have hsound := (Code.readsWritten_lower_iff program).1 hreads
    rw [outcome_report_of_program htokens hprogram (by decide), outcomeOfProgram,
      if_neg (by decide), if_pos hsound, if_neg (by decide)]

end StraightLine
