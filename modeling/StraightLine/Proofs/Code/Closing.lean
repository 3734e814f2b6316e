import StraightLine.Proofs.Code.Listing
import StraightLine.Proofs.Token.Writing

/-!
# Listings whose lines are closed

A semicolon at the end of its line makes a copy a statement: the destination is its target and the source
its value. What is printed of an address is one token, a number for a literal and otherwise a name, as no
reserved word looks like a temporary. The closed listing of some code is read as a program that has a
statement for each of its copies.
-/

namespace StraightLine

open Text Token

/-- A text with a semicolon put in front of each line feed. -/
def Text.closeLines (text : String) : String :=
  .ofList (text.toList.flatMap fun c ↦ if c = '\n' then [';', '\n'] else [c])

/-- Closing the lines of a listing closes its entries. -/
theorem Text.closeLines_listing {entries : List String} (h : ∀ entry ∈ entries, '\n' ∉ entry.toList) :
    closeLines (listing entries) = listing (entries.map (· ++ ";")) := by
  let close : Char → List Char := fun c ↦ if c = '\n' then [';', '\n'] else [c]
  have hkept {line : List Char} (hline : '\n' ∉ line) : line.flatMap close = line := by
    calc
      line.flatMap close = line.flatMap fun c ↦ [c] := by
        apply List.flatMap_congr
        intro c hc
        exact if_neg (ne_of_mem_of_not_mem hc hline)
      _ = line := List.flatMap_singleton' line
  apply String.toList_inj.1
  rw [closeLines, String.toList_ofList, toList_listing, toList_listing, List.map_map,
    List.flatMap_assoc, List.flatMap_map, List.flatMap_map]
  apply List.flatMap_congr
  intro entry hentry
  calc
    (entry.toList ++ ['\n']).flatMap close = entry.toList ++ [';', '\n'] := by
      rw [List.flatMap_append, hkept (h entry hentry)]
      rfl
    _ = (entry ++ ";").toList ++ ['\n'] := by
      rw [String.toList_append, List.append_assoc]
      rfl

namespace Code

/-! ## Spellings -/

def Address.kind : Address → Kind
  | literal _ => .number
  | _ => .identifier

/-- The tokens of a copy that is closed by a semicolon. -/
def Copy.spellings (copy : Copy) : List (Kind × String) :=
  [(copy.destination.kind, copy.destination.render), (.assign, "="),
    (copy.source.kind, copy.source.render), (.semicolon, ";")]

/-- Whether what is printed of an address is no reserved word. -/
def Address.IsUnreserved (address : Address) : Prop :=
  address.render ∉ reservedWords

structure Copy.IsUnreserved (copy : Copy) : Prop where
  destination : copy.destination.IsUnreserved
  source : copy.source.IsUnreserved

/-- Temporaries begin with a letter that no reserved word begins with. -/
theorem isUnreserved_temporary (number : Nat) : (Address.temporary number).IsUnreserved := by
  have hfirst : (Address.temporary number).render.toList.head? = some 't' := by
    rw [toList_render_temporary, List.head?_cons]
  have hreserved : ∀ word ∈ reservedWords, word.toList.head? ≠ some 't' := by decide
  exact fun hmem ↦ hreserved _ hmem hfirst

/-- An address is one token in front of anything that is not part of a name or a number. -/
theorem fits_render {address : Address} (hspelled : address.IsSpelled)
    (hunreserved : address.IsUnreserved) {c : Char} (hname : isNameCharacter c = false)
    (hpoint : c ≠ '.') (rest : List Char) :
    Fits address.kind address.render.toList (c :: rest) := by
  cases address with
  | temporary number => exact .of_word (.inr rfl) (spells_name_render number) hunreserved hname hpoint rest
  | name text => exact .of_word (.inr rfl) hspelled hunreserved hname hpoint rest
  | literal text => exact .of_word (.inl rfl) hspelled hunreserved hname hpoint rest

/-- A copy that is closed is read as the tokens that it is printed as. -/
theorem isReadAs_render {copy : Copy} (hspelled : copy.IsSpelled) (hunreserved : copy.IsUnreserved) :
    Token.IsReadAs (copy.render ++ ";") copy.spellings := by
  have hspace : Blank [' '] := by decide
  have hend := Written.mark .semicolon ";" blank_nil rfl rfl .nil
  have hsource := Written.cons hspace
    (fits_render hspelled.source hunreserved.source (by decide) (by decide) []) hend
  have hsign := Written.mark .assign "=" hspace rfl rfl hsource
  have hdestination := Written.cons blank_nil
    (fits_render hspelled.destination hunreserved.destination (by decide) (by decide) _) hsign
  apply Written.isReadAs
  rw [String.toList_append, toList_render, List.append_assoc]
  exact hdestination

/-! ## Statements -/

/-- Whether a statement says what a closed copy says: its target is what is printed of the destination,
and its value what is printed of the source. -/
structure Copy.IsReadAs (copy : Copy) (statement : Assignment) : Prop where
  target : statement.target.spelling = (.identifier, copy.destination.render)
  value : statement.value.token.spelling = (copy.source.kind, copy.source.render)
  operand : Operand.ofToken? statement.value.token = some statement.value

theorem Copy.IsSpelled.kind_destination {copy : Copy} (h : copy.IsSpelled) :
    copy.destination.kind = .identifier := by
  obtain ⟨text, htext⟩ := h.writes
  cases hdestination : copy.destination with
  | temporary | name => rfl
  | literal =>
    rw [hdestination] at htext
    cases htext

/-- What is printed of an address other than a literal is a name. -/
theorem printed_of_identifier {address : Address} (h : address.kind = .identifier) :
    address.printed = .name address.render := by
  cases address with
  | temporary | name => rfl
  | literal => cases h

theorem printed_of_number {address : Address} (h : address.kind = .number) :
    address.printed = .literal address.render := by
  cases address with
  | temporary | name => cases h
  | literal => rfl

/-- What is printed of an address can be an operand. -/
theorem exists_operand {address : Address} {token : Token}
    (h : token.spelling = (address.kind, address.render)) :
    ∃ operand, Operand.ofToken? token = some operand := by
  have hkind : token.kind = address.kind := congrArg Prod.fst h
  cases address with
  | temporary | name => exact ⟨_, Operand.ofToken?_eq_some_iff.2 (.inr ⟨hkind, rfl⟩)⟩
  | literal => exact ⟨_, Operand.ofToken?_eq_some_iff.2 (.inl ⟨hkind, rfl⟩)⟩

/-- The tokens of closed copies make up a program with a statement for each copy. -/
theorem exists_derivation_of_spellings {code : List Copy} {tokens : List Token}
    (hcode : ∀ copy ∈ code, copy.destination.kind = .identifier)
    (h : tokens.map spelling = code.flatMap Copy.spellings) :
    ∃ program, Program.Derivation tokens program ∧ List.Forall₂ Copy.IsReadAs code program := by
  induction code generalizing tokens with
  | nil =>
    rw [List.flatMap_nil, List.map_eq_nil_iff] at h
    subst h
    exact ⟨[], .nil, .nil⟩
  | cons copy code ih =>
    obtain ⟨hcopy, hrest⟩ := List.forall_mem_cons.1 hcode
    simp only [List.flatMap_cons, Copy.spellings, List.cons_append, List.nil_append,
      List.map_eq_cons_iff] at h
    obtain ⟨target, _, rfl, htarget, sign, _, rfl, hsign, value, _, rfl, hvalue, semicolon, rest, rfl,
      hsemicolon, hlater⟩ := h
    rw [hcopy] at htarget
    obtain ⟨operand, hoperand⟩ := exists_operand hvalue
    obtain ⟨program, hprogram, hstatements⟩ := ih hrest hlater
    have htoken := Operand.token_of_ofToken? hoperand
    refine ⟨⟨target, operand⟩ :: program, ?_, .cons ⟨htarget, ?_, ?_⟩ hstatements⟩
    · exact .cons (congrArg Prod.fst htarget) (congrArg Prod.fst hsign) hoperand
        (congrArg Prod.fst hsemicolon) hprogram
    · rw [htoken, hvalue]
    · rw [htoken, hoperand]

namespace Copy.IsReadAs

variable {copy : Copy} {statement : Assignment}

theorem name_eq (h : copy.IsReadAs statement) : statement.name = copy.destination.render :=
  congrArg Prod.snd h.target

/-- What stands to the right of the statement is the printed source, taken for a variable if it is one. -/
theorem ofOperand_eq (h : copy.IsReadAs statement) :
    ofOperand statement.value = copy.source.printed := by
  have hkind : statement.value.token.kind = copy.source.kind := congrArg Prod.fst h.value
  have hlexeme : statement.value.token.lexeme = copy.source.render := congrArg Prod.snd h.value
  rcases Operand.ofToken?_eq_some_iff.1 h.operand with ⟨hnumber, hvalue⟩ | ⟨hname, hvalue⟩
  · rw [hvalue, ofOperand, hlexeme, printed_of_number (hkind.symm.trans hnumber)]
  · rw [hvalue, ofOperand, hlexeme, printed_of_identifier (hkind.symm.trans hname)]

end Copy.IsReadAs

/-- The targets of the statements are the printed destinations. -/
theorem map_name_eq {code : List Copy} {program : Program}
    (h : List.Forall₂ Copy.IsReadAs code program) :
    program.map Assignment.name = code.map fun copy ↦ copy.destination.render := by
  rw [← List.forall₂_eq_eq_eq, List.forall₂_map_left_iff, List.forall₂_map_right_iff]
  apply h.flip.imp
  intro statement copy hread
  exact hread.name_eq

/-! ## Programs -/

/-- The copies of some code are those of its assignments. -/
theorem mem_ofStatements_iff {copy : Copy} {number : Nat} {program : Program} :
    copy ∈ ofStatements number program ↔ ∃ index statement,
      program[index]? = some statement ∧ copy ∈ ofAssignment (number + index) statement := by
  induction program generalizing number with
  | nil => simp [ofStatements]
  | cons statement program ih =>
    rw [ofStatements, List.mem_append, ih]
    constructor
    · intro h
      rcases h with hfirst | ⟨index, later, hlater, hcopy⟩
      · exact ⟨0, statement, rfl, hfirst⟩
      · refine ⟨index + 1, later, hlater, ?_⟩
        rwa [Nat.add_assoc, Nat.add_comm 1] at hcopy
    · intro h
      obtain ⟨index, later, hlater, hcopy⟩ := h
      cases index with
      | zero =>
        cases hlater
        exact .inl hcopy
      | succ index =>
        refine .inr ⟨index, later, hlater, ?_⟩
        rwa [Nat.add_assoc, Nat.add_comm 1]

theorem isUnreserved_ofAssignment {statement : Assignment} (h : statement.SparesReserved)
    (number : Nat) : ∀ copy ∈ ofAssignment number statement, copy.IsUnreserved := by
  have htemporary := isUnreserved_temporary number
  have hvalue : (ofOperand statement.value).IsUnreserved := by
    have hrender : (ofOperand statement.value).render = statement.value.lexeme := by
      cases statement.value <;> rfl
    rw [Address.IsUnreserved, hrender]
    exact h.2
  rw [ofAssignment, List.forall_mem_cons, List.forall_mem_singleton]
  exact ⟨⟨htemporary, hvalue⟩, ⟨h.1, htemporary⟩⟩

theorem isUnreserved_of_mem_lower {program : Program}
    (h : ∀ statement ∈ program, statement.SparesReserved) :
    ∀ copy ∈ program.lower, copy.IsUnreserved := by
  intro copy hcopy
  obtain ⟨index, statement, hstatement, hmem⟩ := mem_ofStatements_iff.1 hcopy
  exact isUnreserved_ofAssignment (h statement (List.mem_of_getElem? hstatement)) _ copy hmem

/-- The target of each statement is the destination of a copy. -/
theorem exists_copy_of_mem {statement : Assignment} {program : Program} (h : statement ∈ program) :
    ∃ copy ∈ program.lower, copy.destination = .name statement.name := by
  obtain ⟨index, hindex⟩ := List.getElem?_of_mem h
  refine ⟨⟨.name statement.name, .temporary (1 + index)⟩, ?_, rfl⟩
  exact mem_ofStatements_iff.2 ⟨index, statement, hindex, by simp [ofAssignment]⟩

end Code

end StraightLine
