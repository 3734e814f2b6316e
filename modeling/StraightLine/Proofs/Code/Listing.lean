import StraightLine.Code.Basic
import StraightLine.Proofs.Program.Grammar
import StraightLine.Proofs.Text.Lines
import StraightLine.Proofs.Token.Match

/-!
# Listings of code read back

A listing says nothing of temporaries: whoever reads it sees names and numbers. Read line by line, it
is the code that was printed, with every temporary taken for the variable that bears its name.
-/

namespace StraightLine.Code

open Token

/-! ## Reading -/

/-- A word that looks like a name is a variable, and one that looks like a number a literal. -/
def Address.ofWord? (word : List Char) : Option Address :=
  if Pattern.name.lexeme? word = some word then some (.name (.ofList word))
  else if Pattern.numeral.lexeme? word = some word then some (.literal (.ofList word))
  else none

/-- A line of a listing assigns to a variable what another or a literal holds. -/
def Copy.ofLine? (line : List Char) : Option Copy :=
  match line.splitOn ' ' with
  | [target, ['='], operand] =>
    match Address.ofWord? target, Address.ofWord? operand with
    | some (.name text), some source => some ⟨.name text, source⟩
    | _, _ => none
  | _ => none

def ofListing? (text : String) : Option (List Copy) :=
  ((text.toList.splitOn '\n').filter (· ≠ [])).mapM Copy.ofLine?

/-! ## What is read -/

/-- What an address is to a reader of its text. -/
def Address.printed : Address → Address
  | literal text => literal text
  | cell => name cell.render

def Copy.printed (copy : Copy) : Copy :=
  ⟨copy.destination.printed, copy.source.printed⟩

/-- Whether the names and numbers of the language are used as such. -/
def Address.IsSpelled : Address → Prop
  | temporary _ => True
  | name text => Pattern.name.Spells text.toList
  | literal text => Pattern.numeral.Spells text.toList

theorem toList_render_temporary (number : Nat) :
    (Address.temporary number).render.toList = 't' :: Nat.toDigits 10 number := by
  have hrender : (Address.temporary number).render = "t" ++ toString number := rfl
  rw [hrender, Nat.toString_eq_ofList_toDigits, String.toList_append]
  exact congrArg ('t' :: ·) String.toList_ofList

theorem spells_name_render (number : Nat) :
    Pattern.name.Spells (Address.temporary number).render.toList := by
  refine ⟨'t', Nat.toDigits 10 number, toList_render_temporary number, by decide, ?_⟩
  intro c hc
  exact isNameCharacter_of_isDigit (Nat.isDigit_of_mem_toDigits (by decide) (by decide) hc)

/-! ### Words -/

theorem ofWord?_of_name {text : String} (h : Pattern.name.Spells text.toList) :
    Address.ofWord? text.toList = some (.name text) := by
  have hlexeme : Pattern.name.lexeme? text.toList = some text.toList :=
    Pattern.lexeme?_name_eq_some_iff.2 ⟨[], (List.append_nil _).symm, h, Text.stops_nil⟩
  rw [Address.ofWord?, if_pos hlexeme, String.ofList_toList]

/-- A name does not begin like a number. -/
theorem not_spells_numeral {lexeme : List Char} (hname : Pattern.name.Spells lexeme) :
    ¬ Pattern.numeral.Spells lexeme := by
  obtain ⟨c, others, rfl, hc, -⟩ := id hname
  intro hnumeral
  have hidentifier := @Kind.ofFirst?_of_spells .identifier c others (by decide) hname
  have hnumber := @Kind.ofFirst?_of_spells .number c others (by decide) hnumeral
  cases hidentifier.symm.trans hnumber

theorem ofWord?_of_numeral {text : String} (h : Pattern.numeral.Spells text.toList) :
    Address.ofWord? text.toList = some (.literal text) := by
  have hname : Pattern.name.lexeme? text.toList ≠ some text.toList := by
    intro hname
    obtain ⟨_, -, hspells, -⟩ := Pattern.lexeme?_name_eq_some_iff.1 hname
    exact not_spells_numeral hspells h
  have hlexeme : Pattern.numeral.lexeme? text.toList = some text.toList :=
    Pattern.lexeme?_numeral_eq_some_iff.2
      ⟨[], (List.append_nil _).symm, h, Text.stops_nil, .inr rfl⟩
  rw [Address.ofWord?, if_neg hname, if_pos hlexeme, String.ofList_toList]

theorem ofWord?_render {address : Address} (h : address.IsSpelled) :
    Address.ofWord? address.render.toList = some address.printed := by
  cases address with
  | temporary number => exact ofWord?_of_name (spells_name_render number)
  | name text => exact ofWord?_of_name h
  | literal text => exact ofWord?_of_numeral h

/-- No word has white space in it. -/
theorem isWhiteSpace_eq_false_of_mem_render {address : Address} (h : address.IsSpelled) {c : Char}
    (hc : c ∈ address.render.toList) : Text.isWhiteSpace c = false := by
  cases address with
  | temporary number =>
    exact @Kind.isWhiteSpace_eq_false_of_mem .identifier _ _ (spells_name_render number) hc
  | name text => exact @Kind.isWhiteSpace_eq_false_of_mem .identifier _ _ h hc
  | literal text => exact @Kind.isWhiteSpace_eq_false_of_mem .number _ _ h hc

theorem not_mem_render {address : Address} (h : address.IsSpelled) {c : Char}
    (hc : Text.isWhiteSpace c = true) : c ∉ address.render.toList := fun hmem ↦
  absurd hc (by simp [isWhiteSpace_eq_false_of_mem_render h hmem])

/-! ### Lines -/

theorem toList_render (copy : Copy) :
    copy.render.toList =
      copy.destination.render.toList ++ ' ' :: '=' :: ' ' :: copy.source.render.toList := by
  have hrender : copy.render = copy.destination.render ++ " = " ++ copy.source.render := rfl
  rw [hrender, String.toList_append, String.toList_append, List.append_assoc]
  rfl

/-- Whether a copy writes to a cell and all names and numbers in it are used as such. -/
structure Copy.IsSpelled (copy : Copy) : Prop where
  destination : copy.destination.IsSpelled
  source : copy.source.IsSpelled
  writes : ∃ text, copy.destination.printed = .name text

theorem ofLine?_render {copy : Copy} (h : copy.IsSpelled) :
    Copy.ofLine? copy.render.toList = some copy.printed := by
  have hspace : Text.isWhiteSpace ' ' = true := by decide
  have hsign : ' ' ∉ ['='] := by decide
  have hwords : copy.render.toList.splitOn ' ' =
      [copy.destination.render.toList, ['='], copy.source.render.toList] := by
    rw [toList_render,
      List.splitOn_append_cons_self_of_not_mem (not_mem_render h.destination hspace)]
    refine congrArg (copy.destination.render.toList :: ·) ?_
    refine (List.splitOn_append_cons_self_of_not_mem hsign _).trans ?_
    rw [List.splitOn_eq_singleton (not_mem_render h.source hspace)]
  obtain ⟨text, htext⟩ := h.writes
  simp only [Copy.ofLine?, hwords, ofWord?_render h.destination, ofWord?_render h.source, htext,
    Copy.printed]

theorem lineFeed_not_mem_render {copy : Copy} (h : copy.IsSpelled) : '\n' ∉ copy.render.toList := by
  have hdestination := not_mem_render h.destination (c := '\n') (by decide)
  have hsource := not_mem_render h.source (c := '\n') (by decide)
  rw [toList_render]
  simp [hdestination, hsource]

/-- Lines that are each ended by a line feed are found again when cut there. -/
theorem splitOn_lines {lines : List (List Char)} (h : ∀ line ∈ lines, '\n' ∉ line) :
    (lines.flatMap (· ++ ['\n'])).splitOn '\n' = lines ++ [[]] := by
  induction lines with
  | nil => rfl
  | cons line lines ih =>
    obtain ⟨hline, hlines⟩ := List.forall_mem_cons.1 h
    rw [List.flatMap_cons, List.append_assoc, List.singleton_append,
      List.splitOn_append_cons_self_of_not_mem hline, ih hlines, List.cons_append]

/-- The listing of some code is read as the code with its temporaries taken for variables. -/
theorem ofListing?_listing {code : List Copy} (h : ∀ copy ∈ code, copy.IsSpelled) :
    ofListing? (Text.listing (code.map Copy.render)) = some (code.map Copy.printed) := by
  have hlines : ∀ line ∈ code.map fun copy ↦ copy.render.toList, '\n' ∉ line ∧ line ≠ [] := by
    intro line hline
    obtain ⟨copy, hcopy, rfl⟩ := List.mem_map.1 hline
    refine ⟨lineFeed_not_mem_render (h copy hcopy), ?_⟩
    rw [toList_render]
    simp
  have hfilter : (code.map fun copy ↦ copy.render.toList).filter (· ≠ []) =
      code.map fun copy ↦ copy.render.toList :=
    List.filter_eq_self.2 fun line hline ↦ decide_eq_true (hlines line hline).2
  rw [ofListing?, Text.toList_listing, List.map_map]
  refine Eq.trans ?_ (Text.mapM_map_write fun copy hcopy ↦ ofLine?_render (h copy hcopy))
  refine congrArg (List.mapM Copy.ofLine?) ?_
  rw [Function.comp_def, splitOn_lines fun line hline ↦ (hlines line hline).1, List.filter_append,
    hfilter]
  exact List.append_nil _

/-! ### Programs -/

theorem isSpelled_ofOperand {token : Token} {operand : Operand}
    (hoperand : Operand.ofToken? token = some operand)
    (hspells : token.kind.pattern.Spells token.lexeme.toList) : (ofOperand operand).IsSpelled := by
  rcases Operand.ofToken?_eq_some_iff.1 hoperand with ⟨hkind, rfl⟩ | ⟨hkind, rfl⟩
  · rw [hkind] at hspells
    exact hspells
  · rw [hkind] at hspells
    exact hspells

/-- The code of a program is spelled as it must be if the tokens of the program are. -/
theorem isSpelled_of_mem_ofStatements {tokens : List Token} {program : Program}
    (h : Program.Derivation tokens program)
    (hspells : ∀ token ∈ tokens, token.kind.pattern.Spells token.lexeme.toList) (number : Nat) :
    ∀ copy ∈ ofStatements number program, copy.IsSpelled := by
  induction h generalizing number with
  | nil => exact List.forall_mem_nil _
  | @cons target sign value semicolon operand rest program htarget hsign hoperand hsemicolon hrest
      ih =>
    have hname := hspells target (by simp)
    rw [htarget] at hname
    have hsource := isSpelled_ofOperand hoperand (hspells value (by simp))
    have hlater := ih (fun token htoken ↦ hspells token (by simp [htoken])) (number + 1)
    rw [ofStatements, ofAssignment, List.cons_append, List.cons_append, List.nil_append]
    exact List.forall_mem_cons.2 ⟨⟨trivial, hsource, _, rfl⟩,
      List.forall_mem_cons.2 ⟨⟨hname, trivial, _, rfl⟩, hlater⟩⟩

end StraightLine.Code
