import StraightLine.Program.Reader
import Mathlib.Data.List.Forall2
import Mathlib.Tactic.Common

/-!
# The slots of a statement

Each slot of a statement takes tokens of certain kinds. Reading a statement fills the slots in order,
until all are filled or one of them stays open: because the tokens end there, or because the next one
does not fit. `Step` lists these two cases with the slots filled so far, and `step_iff` says that they
are the ways in which `Reader.statement` reads.
-/

namespace StraightLine

theorem Operand.ofToken?_eq_some_iff {token : Token} {operand : Operand} :
    ofToken? token = some operand ↔
      token.kind = .number ∧ operand = .number token ∨
        token.kind = .identifier ∧ operand = .identifier token := by
  obtain ⟨kind, lexeme, position⟩ := token
  cases kind <;> simp [ofToken?, eq_comm]

def Operand.kind : Operand → Token.Kind
  | number _ => .number
  | identifier _ => .identifier

theorem Operand.kind_eq_or (operand : Operand) :
    operand.kind = .number ∨ operand.kind = .identifier := by
  cases operand with
  | number token => exact .inl rfl
  | identifier token => exact .inr rfl

theorem Operand.kind_token_of_ofToken? {token : Token} {operand : Operand}
    (h : ofToken? token = some operand) : operand.token.kind = operand.kind := by
  rcases ofToken?_eq_some_iff.1 h with ⟨hkind, rfl⟩ | ⟨hkind, rfl⟩
  · exact hkind
  · exact hkind

/-- The error where something else is found than what was looked for, or nothing. -/
def Expectation.fault (expected : Expectation) (stop : Position) : Option Token → SyntaxError
  | none => .endOfInput expected stop
  | some found =>
    match expected with
    | .token kind => .otherKind kind found
    | .operand => .noOperand found

/-! ## Slots -/

namespace Slot

def all : List Slot := [target, assign, value, semicolon]

def kinds : Slot → List Token.Kind
  | target => [.identifier]
  | assign => [.assign]
  | value => [.number, .identifier]
  | semicolon => [.semicolon]

def Admits (slot : Slot) (token : Token) : Prop :=
  token.kind ∈ slot.kinds

def expectation : Slot → Expectation
  | target => .token .identifier
  | assign => .token .assign
  | value => .operand
  | semicolon => .token .semicolon

variable {token : Token} {tokens : List Token}

@[simp] theorem admits_target : Admits target token ↔ token.kind = .identifier := by
  simp [Admits, kinds]

@[simp] theorem admits_assign : Admits assign token ↔ token.kind = .assign := by
  simp [Admits, kinds]

/-- The tokens that fill the slot of the value are the operands. -/
@[simp] theorem admits_value :
    Admits value token ↔ ∃ operand, Operand.ofToken? token = some operand := by
  simp only [Admits, kinds, List.mem_cons, List.not_mem_nil, or_false,
    Operand.ofToken?_eq_some_iff, exists_or, exists_and_left, exists_eq, and_true]

@[simp] theorem admits_semicolon : Admits semicolon token ↔ token.kind = .semicolon := by
  simp [Admits, kinds]

/-- Whether some tokens fill the slots in front of a given one. -/
def FilledBefore (slot : Slot) (tokens : List Token) : Prop :=
  List.Forall₂ Admits (all.take slot.index) tokens

theorem filledBefore_target : FilledBefore target tokens ↔ tokens = [] := by
  simp [FilledBefore, index]

theorem filledBefore_assign :
    FilledBefore assign tokens ↔ ∃ target, target.kind = .identifier ∧ tokens = [target] := by
  simp [FilledBefore, all, index, List.forall₂_cons_left_iff]

theorem filledBefore_value :
    FilledBefore value tokens ↔ ∃ target sign, target.kind = .identifier ∧ sign.kind = .assign ∧
      tokens = [target, sign] := by
  simp [FilledBefore, all, index, List.forall₂_cons_left_iff]

theorem filledBefore_semicolon :
    FilledBefore semicolon tokens ↔ ∃ target sign value operand, target.kind = .identifier ∧
      sign.kind = .assign ∧ Operand.ofToken? value = some operand ∧
      tokens = [target, sign, value] := by
  simp [FilledBefore, all, index, List.forall₂_cons_left_iff, and_assoc]

theorem filled_all :
    List.Forall₂ Admits all tokens ↔ ∃ target sign value semicolon operand,
      target.kind = .identifier ∧ sign.kind = .assign ∧ Operand.ofToken? value = some operand ∧
      semicolon.kind = .semicolon ∧ tokens = [target, sign, value, semicolon] := by
  simp [all, List.forall₂_cons_left_iff, and_assoc]

theorem index_of_getElem?_all {slot : Slot} {index : Nat} (h : all[index]? = some slot) :
    index = slot.index := by
  rcases index with _ | _ | _ | _ | index <;> simp [all] at h <;> subst h <;> rfl

theorem FilledBefore.length_eq {slot : Slot} (h : slot.FilledBefore tokens) :
    tokens.length = slot.index := by
  rw [← List.Forall₂.length_eq h]
  cases slot <;> rfl

/-- Only the last slot takes semicolons. -/
theorem FilledBefore.kind_ne_semicolon {slot : Slot} (h : slot.FilledBefore tokens) :
    ∀ token ∈ tokens, token.kind ≠ .semicolon := by
  have hkinds : ∀ earlier ∈ all.take slot.index, .semicolon ∉ earlier.kinds := by
    cases slot <;> decide
  unfold FilledBefore at h
  generalize all.take slot.index = slots at h hkinds
  induction h with
  | nil => simp
  | @cons earlier token slots tokens hadmits hrest ih =>
    rw [List.forall_mem_cons] at hkinds ⊢
    refine ⟨?_, ih hkinds.2⟩
    intro hsemicolon
    exact hkinds.1 (hsemicolon ▸ hadmits)

end Slot

/-- Going through two lists in step, one comes to the end of the first, or to a member of it that has
no fitting partner. -/
theorem exists_filled {α β : Type} (R : α → β → Prop) (as : List α) (bs : List β) :
    (∃ front rest, bs = front ++ rest ∧ List.Forall₂ R as front) ∨
      ∃ index a front rest, as[index]? = some a ∧ bs = front ++ rest ∧
        List.Forall₂ R (as.take index) front ∧ ∀ b ∈ rest.head?, ¬ R a b := by
  induction as generalizing bs with
  | nil => exact .inl ⟨[], bs, rfl, .nil⟩
  | cons a as ih =>
    by_cases hfits : ∃ b ∈ bs.head?, R a b
    · obtain ⟨b, hb, hfits⟩ := hfits
      obtain ⟨bs, rfl⟩ := List.head?_eq_some_iff.1 hb
      rcases ih bs with ⟨front, rest, rfl, hfront⟩ | ⟨index, c, front, rest, hc, rfl, hfront, hrest⟩
      · exact .inl ⟨b :: front, rest, rfl, .cons hfits hfront⟩
      · exact .inr ⟨index + 1, c, b :: front, rest, hc, rfl, .cons hfits hfront, hrest⟩
    · refine .inr ⟨0, a, [], bs, rfl, rfl, .nil, ?_⟩
      intro b hb hfit
      exact hfits ⟨b, hb, hfit⟩

/-! ## Reading -/

namespace Reader

/-- What reading a statement comes to: all slots are filled, or one of them stays open behind the
slots that are filled. -/
inductive Step : Reader → Except SlotError Assignment → Prop
  | sound {target sign value semicolon : Token} {rest : List Token} {stop : Position}
      {operand : Operand} (htarget : target.kind = .identifier) (hsign : sign.kind = .assign)
      (hoperand : Operand.ofToken? value = some operand)
      (hsemicolon : semicolon.kind = .semicolon) :
      Step ⟨target :: sign :: value :: semicolon :: rest, stop⟩ (.ok ⟨target, operand⟩)
  | faulty {slot : Slot} {front rest : List Token} {stop : Position}
      (hfront : slot.FilledBefore front) (hrest : ∀ token ∈ rest.head?, ¬ slot.Admits token) :
      Step ⟨front ++ rest, stop⟩ (.error ⟨slot, slot.expectation.fault stop rest.head?⟩)

theorem expect_eq_error {rest : List Token} {kind : Token.Kind}
    (h : ∀ token ∈ rest.head?, token.kind ≠ kind) (stop : Position) :
    expect ⟨rest, stop⟩ kind = .error ((Expectation.token kind).fault stop rest.head?) := by
  cases rest with
  | nil => rfl
  | cons token rest => exact if_neg (h token rfl)

theorem operand_eq_error {rest : List Token}
    (h : ∀ token ∈ rest.head?, Operand.ofToken? token = none) (stop : Position) :
    operand ⟨rest, stop⟩ = .error (Expectation.operand.fault stop rest.head?) := by
  cases rest with
  | nil => rfl
  | cons token rest =>
    have hnone := h token rfl
    simp only [operand, hnone]
    rfl

theorem statement_of_filled {target sign value semicolon : Token} {operand : Operand}
    (htarget : target.kind = .identifier) (hsign : sign.kind = .assign)
    (hoperand : Operand.ofToken? value = some operand) (hsemicolon : semicolon.kind = .semicolon)
    (rest : List Token) (stop : Position) :
    statement ⟨target :: sign :: value :: semicolon :: rest, stop⟩ = .ok ⟨target, operand⟩ := by
  simp only [statement, inSlot, skip, Slot.index, List.drop, expect, Reader.operand, htarget, hsign,
    hoperand, hsemicolon, if_true]
  rfl

theorem statement_of_open {slot : Slot} {front rest : List Token} (hfront : slot.FilledBefore front)
    (hrest : ∀ token ∈ rest.head?, ¬ slot.Admits token) (stop : Position) :
    statement ⟨front ++ rest, stop⟩ =
      .error ⟨slot, slot.expectation.fault stop rest.head?⟩ := by
  cases slot with
  | target =>
    obtain rfl := Slot.filledBefore_target.1 hfront
    simp only [Slot.admits_target] at hrest
    simp only [statement, inSlot, skip, Slot.index, List.drop, List.nil_append,
      expect_eq_error hrest]
    rfl
  | assign =>
    obtain ⟨target, htarget, rfl⟩ := Slot.filledBefore_assign.1 hfront
    simp only [Slot.admits_assign] at hrest
    simp only [statement, inSlot, skip, Slot.index, List.cons_append, List.nil_append,
      List.drop, expect_eq_error hrest]
    simp only [expect, htarget, if_true]
    rfl
  | value =>
    obtain ⟨target, sign, htarget, hsign, rfl⟩ := Slot.filledBefore_value.1 hfront
    simp only [Slot.admits_value, not_exists, ← Option.eq_none_iff_forall_ne_some] at hrest
    simp only [statement, inSlot, skip, Slot.index, List.cons_append, List.nil_append,
      List.drop, operand_eq_error hrest]
    simp only [expect, htarget, hsign, if_true]
    rfl
  | semicolon =>
    obtain ⟨target, sign, value, operand, htarget, hsign, hoperand, rfl⟩ :=
      Slot.filledBefore_semicolon.1 hfront
    simp only [Slot.admits_semicolon] at hrest
    simp only [statement, inSlot, skip, Slot.index, List.cons_append, List.nil_append,
      List.drop, expect_eq_error hrest]
    simp only [expect, Reader.operand, htarget, hsign, hoperand, if_true]
    rfl

theorem step_statement (reader : Reader) : Step reader reader.statement := by
  obtain ⟨tokens, stop⟩ := reader
  rcases exists_filled Slot.Admits Slot.all tokens with
    ⟨front, rest, rfl, hfront⟩ | ⟨index, slot, front, rest, hslot, rfl, hfront, hrest⟩
  · obtain ⟨target, sign, value, semicolon, operand, htarget, hsign, hoperand, hsemicolon, rfl⟩ :=
      Slot.filled_all.1 hfront
    have hread := statement_of_filled htarget hsign hoperand hsemicolon rest stop
    simp only [List.cons_append, List.nil_append, hread]
    exact .sound htarget hsign hoperand hsemicolon
  · obtain rfl := Slot.index_of_getElem?_all hslot
    rw [statement_of_open hfront hrest]
    exact .faulty hfront hrest

/-- The cases of `Step` are the ways in which a statement is read. -/
theorem step_iff {reader : Reader} {result : Except SlotError Assignment} :
    Step reader result ↔ reader.statement = result := by
  constructor
  · intro hstep
    cases hstep with
    | sound htarget hsign hoperand hsemicolon =>
      exact statement_of_filled htarget hsign hoperand hsemicolon _ _
    | faulty hfront hrest => exact statement_of_open hfront hrest _
  · intro hresult
    subst hresult
    exact step_statement reader

end Reader

end StraightLine
