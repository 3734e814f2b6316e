import StraightLine.Proofs.Program.Location

/-!
# The slots of errors

A reader can keep the slot that it is in. It enters the slots of a statement one after the other, is left
in a slot that stays open, and enters the first one again when it goes on behind a semicolon. Whatever
slot it is left in, what it keeps at an error is the slot that the error is recovered with
(`SlotReader.recover_eq`).

That slot is the first one that stays open in a statement. Statements begin at the first token and behind
each semicolon, so that their errors can be told from the tokens alone (`Reader.errors_recover_eq`).
-/

namespace StraightLine

/-- A reader with the slot that it is in. -/
structure SlotReader where
  reader : Reader
  slot : Slot

namespace SlotReader

/-! ## Slots that are kept -/

/-- Parts of statements, read by readers that are left where they are at an error. -/
abbrev Part := EStateM SyntaxError SlotReader

def enter (slot : Slot) : Part Unit :=
  modify fun state ↦ ⟨state.reader, slot⟩

def take {α : Type} (find : Reader → Except SyntaxError α) : Part α := fun state ↦
  match find state.reader with
  | .ok a => .ok a ⟨state.reader.skip 1, state.slot⟩
  | .error e => .error e state

def fill {α : Type} (slot : Slot) (find : Reader → Except SyntaxError α) : Part α := do
  enter slot
  take find

def statement : Part Assignment := do
  let target ← fill .target (·.expect .identifier)
  let _ ← fill .assign (·.expect .assign)
  let value ← fill .value Reader.operand
  let _ ← fill .semicolon (·.expect .semicolon)
  enter .target
  return ⟨target, value⟩

def synchronize (state : SlotReader) : SlotReader :=
  ⟨state.reader.pastSemicolon, .target⟩

/-- How a part of the statement that begins at a reader ends: at the given place if it is sound, and
otherwise in the slot of its error, with the tokens in front of it read. -/
def ending {α : Type} (reader : Reader) (past : SlotReader) :
    Except SlotError α → EStateM.Result SyntaxError SlotReader α
  | .ok a => .ok a past
  | .error e => .error e.error ⟨reader.skip e.slot.index, e.slot⟩

theorem fill_eq {α : Type} (slot : Slot) (find : Reader → Except SyntaxError α) (reader : Reader)
    (other : Slot) :
    fill slot find ⟨reader.skip slot.index, other⟩ =
      ending reader ⟨reader.skip (slot.index + 1), slot⟩ (reader.inSlot slot find) := by
  have hskip : (reader.skip slot.index).skip 1 = reader.skip (slot.index + 1) := by
    unfold Reader.skip
    rw [List.drop_drop]
  have hfill : fill slot find ⟨reader.skip slot.index, other⟩ =
      take find ⟨reader.skip slot.index, slot⟩ := rfl
  rw [hfill, ← hskip]
  unfold take Reader.inSlot
  cases find (reader.skip slot.index) with
  | ok a => rfl
  | error e => rfl

theorem bind_eq {α β : Type} {part : Part α} {next : α → Part β} {reader : Reader}
    {state past later : SlotReader} {found : Except SlotError α} {f : α → Except SlotError β}
    (hpart : part state = ending reader past found)
    (hnext : ∀ a, next a past = ending reader later (f a)) :
    (part >>= next) state = ending reader later (found >>= f) := by
  have hbind : (part >>= next) state = EStateM.bind part next state := rfl
  rw [hbind, EStateM.bind, hpart]
  cases found with
  | ok a => exact hnext a
  | error e => rfl

/-- A statement ends in front of the next one, or in the slot of its error. -/
theorem statement_eq (reader : Reader) (slot : Slot) :
    statement ⟨reader, slot⟩ = ending reader ⟨reader.pastStatement, .target⟩ reader.statement := by
  unfold statement Reader.statement
  apply bind_eq (fill_eq .target _ reader slot)
  intro target
  apply bind_eq (fill_eq .assign _ reader .target)
  intro _
  apply bind_eq (fill_eq .value _ reader .assign)
  intro value
  apply bind_eq (fill_eq .semicolon _ reader .value)
  intro _
  rfl

theorem length_rest_lt {state : SlotReader} (h : state.reader.rest ≠ []) :
    match statement state with
    | .ok _ later => later.reader.rest.length < state.reader.rest.length
    | .error _ later => later.synchronize.reader.rest.length < state.reader.rest.length := by
  rw [statement_eq]
  cases state.reader.statement with
  | ok a => exact Reader.length_rest_pastStatement_lt h
  | error e => exact Reader.length_rest_pastError_lt h e

/-- All statements from the reader on. Each error is recovered with the slot that the reader keeps. -/
def recover (state : SlotReader) : Reader.Recovery :=
  if h : state.reader.rest = [] then ⟨[], []⟩
  else
    have hshorter := length_rest_lt h
    match hstatement : statement state with
    | .ok a later =>
      have : later.reader.rest.length < state.reader.rest.length := by rwa [hstatement] at hshorter
      ⟨a :: later.recover.program, later.recover.errors⟩
    | .error e later =>
      have : later.synchronize.reader.rest.length < state.reader.rest.length := by
        rwa [hstatement] at hshorter
      ⟨later.synchronize.recover.program, ⟨later.slot, e⟩ :: later.synchronize.recover.errors⟩
termination_by state.reader.rest.length

theorem recover_of_nil {state : SlotReader} (h : state.reader.rest = []) :
    state.recover = ⟨[], []⟩ := by
  rw [recover, dif_pos h]

theorem recover_of_ok {state later : SlotReader} {a : Assignment} (h : state.reader.rest ≠ [])
    (hstatement : statement state = .ok a later) :
    state.recover = ⟨a :: later.recover.program, later.recover.errors⟩ := by
  rw [recover, dif_neg h]
  split
  · next hother =>
    cases hstatement.symm.trans hother
    rfl
  · next hother => cases hstatement.symm.trans hother

theorem recover_of_error {state later : SlotReader} {e : SyntaxError} (h : state.reader.rest ≠ [])
    (hstatement : statement state = .error e later) :
    state.recover =
      ⟨later.synchronize.recover.program, ⟨later.slot, e⟩ :: later.synchronize.recover.errors⟩ := by
  rw [recover, dif_neg h]
  split
  · next hother => cases hstatement.symm.trans hother
  · next hother =>
    cases hstatement.symm.trans hother
    rfl

/-- Nothing of the slot that a reader is left in shows in what it recovers, and the slots that it keeps
are those of the errors. -/
theorem recover_eq (reader : Reader) (slot : Slot) :
    (SlotReader.mk reader slot).recover = reader.recover := by
  induction reader using Reader.recover.induct generalizing slot with
  | case1 reader hrest => rw [Reader.recover_of_nil hrest, recover_of_nil hrest]
  | case2 reader hrest a hread hshorter ih =>
    have hstatement := statement_eq reader slot
    rw [hread] at hstatement
    rw [Reader.recover_of_ok hrest hread, recover_of_ok hrest hstatement, ih .target]
  | case3 reader hrest e hread hshorter ih =>
    have hstatement := statement_eq reader slot
    rw [hread] at hstatement
    have hlater : (SlotReader.mk (reader.skip e.slot.index) e.slot).synchronize.recover =
        (reader.pastError e).recover := ih .target
    rw [Reader.recover_of_error hrest hread, recover_of_error hrest hstatement, hlater]

/-- A reader that is left in a slot of its own still keeps the slots that stay open. -/
example : ((Token.Lexer.ofSource "b 2; c = ; d = c; e = 3").tokenize.map fun tokens ↦
    (SlotReader.mk (.ofTokens tokens) .semicolon).recover.errors.map SlotError.slot).toOption =
      some [.assign, .value, .semicolon] := by
  decide +kernel

end SlotReader

/-! ## Statements that stay open -/

/-- How many of the first tokens fit the slots of a statement. -/
def fitting (tokens : List Token) : Nat :=
  ((Slot.all.zip tokens).takeWhile fun (slot, token) ↦ token.kind ∈ slot.kinds).length

/-- The error in the first slot that stays open, if there is any. -/
def slotFault? (stop : Position) (tokens : List Token) : Option SlotError :=
  Slot.all[fitting tokens]?.map fun slot ↦
    ⟨slot, slot.expectation.fault stop tokens[fitting tokens]?⟩

/-- Tokens fit slots up to the first pair that does not. -/
theorem length_takeWhile_zip {slots later : List Slot} {front rest : List Token}
    (hfront : List.Forall₂ Slot.Admits slots front)
    (hrest : ∀ slot ∈ later.head?, ∀ token ∈ rest.head?, ¬ slot.Admits token) :
    (((slots ++ later).zip (front ++ rest)).takeWhile
      fun (slot, token) ↦ token.kind ∈ slot.kinds).length = slots.length := by
  induction hfront with
  | nil =>
    cases later with
    | nil => rfl
    | cons slot later =>
      cases rest with
      | nil => rfl
      | cons token rest =>
        have hopen : token.kind ∉ slot.kinds := hrest slot rfl token rfl
        simp [hopen]
  | @cons slot token slots front hadmits hfront ih =>
    have hfits : token.kind ∈ slot.kinds := hadmits
    simpa [hfits] using ih

theorem fitting_of_filled {front : List Token} (h : List.Forall₂ Slot.Admits Slot.all front)
    (rest : List Token) : fitting (front ++ rest) = 4 := by
  unfold fitting
  rw [← List.append_nil Slot.all]
  exact length_takeWhile_zip h (by simp)

theorem Slot.getElem?_all (slot : Slot) : all[slot.index]? = some slot := by
  cases slot <;> rfl

theorem fitting_of_open {slot : Slot} {front rest : List Token} (hfront : slot.FilledBefore front)
    (hrest : ∀ token ∈ rest.head?, ¬ slot.Admits token) : fitting (front ++ rest) = slot.index := by
  have hlength : (Slot.all.take slot.index).length = slot.index :=
    (List.Forall₂.length_eq hfront).trans hfront.length_eq
  have hlater : ∀ other ∈ (Slot.all.drop slot.index).head?, ∀ token ∈ rest.head?,
      ¬ other.Admits token := by
    intro other hother
    rw [List.head?_drop, slot.getElem?_all] at hother
    cases hother
    exact hrest
  unfold fitting
  rw [← List.take_append_drop slot.index Slot.all, length_takeWhile_zip hfront hlater, hlength]

theorem fitting_le_length (tokens : List Token) : fitting tokens ≤ tokens.length := by
  calc
    fitting tokens ≤ (Slot.all.zip tokens).length := (List.takeWhile_sublist _).length_le
    _ = min Slot.all.length tokens.length := List.length_zip
    _ ≤ tokens.length := Nat.min_le_right _ _

/-- The slot of an error stands behind the tokens that fit, and the error is about what is there. -/
theorem fitting_of_slotFault? {tokens : List Token} {stop : Position} {e : SlotError}
    (h : slotFault? stop tokens = some e) :
    fitting tokens = e.slot.index ∧ e.error.found? = tokens[e.slot.index]? := by
  obtain ⟨slot, hslot, rfl⟩ := Option.map_eq_some_iff.1 h
  have hindex : fitting tokens = slot.index := Slot.index_of_getElem?_all hslot
  refine ⟨hindex, ?_⟩
  rw [Expectation.found?_fault, hindex]

/-- The errors that belong to each slot. The tokens do not end where a statement begins, and what is found
in a slot is not what it takes. -/
inductive SlotError.IsExplained : SlotError → Prop
  | target {found : Token} (hkind : found.kind ≠ .identifier) :
      IsExplained ⟨.target, .otherKind .identifier found⟩
  | assign {found : Token} (hkind : found.kind ≠ .assign) :
      IsExplained ⟨.assign, .otherKind .assign found⟩
  | endBeforeAssign (stop : Position) : IsExplained ⟨.assign, .endOfInput (.token .assign) stop⟩
  | value {found : Token} (hnumber : found.kind ≠ .number) (hname : found.kind ≠ .identifier) :
      IsExplained ⟨.value, .noOperand found⟩
  | endBeforeValue (stop : Position) : IsExplained ⟨.value, .endOfInput .operand stop⟩
  | semicolon {found : Token} (hkind : found.kind ≠ .semicolon) :
      IsExplained ⟨.semicolon, .otherKind .semicolon found⟩
  | endBeforeSemicolon (stop : Position) :
      IsExplained ⟨.semicolon, .endOfInput (.token .semicolon) stop⟩

/-! ## Where statements begin -/

/-- Whether a statement can begin at an index: nothing stands in front of it, or a semicolon. -/
def BeginsAt (tokens : List Token) (index : Nat) : Prop :=
  ∀ token ∈ (tokens.take index).getLast?, token.kind = .semicolon

instance (tokens : List Token) : DecidablePred (BeginsAt tokens) := fun index ↦
  inferInstanceAs (Decidable (∀ token ∈ (tokens.take index).getLast?, token.kind = .semicolon))

def beginnings (tokens : List Token) : List Nat :=
  (List.range tokens.length).filter (BeginsAt tokens)

theorem lt_length_of_mem_beginnings {tokens : List Token} {index : Nat}
    (h : index ∈ beginnings tokens) : index < tokens.length :=
  List.mem_range.1 (List.mem_of_mem_filter h)

theorem beginsAt_zero (tokens : List Token) : BeginsAt tokens 0 := by
  simp [BeginsAt]

theorem not_beginsAt_of_unbroken {body : List Token} (hbody : Unbroken body) {index : Nat}
    (hindex : index < body.length) (rest : List Token) : ¬ BeginsAt (body ++ rest) (index + 1) := by
  intro h
  have hlast : ((body ++ rest).take (index + 1)).getLast? = some body[index] := by
    rw [List.take_append_of_le_length hindex, List.getLast?_take]
    simp [hindex]
  exact hbody body[index] (List.getElem_mem hindex) (h body[index] hlast)

/-- Behind a semicolon statements begin where they begin without the tokens in front. -/
theorem beginsAt_behind {semicolon : Token} (hsemicolon : semicolon.kind = .semicolon)
    (body rest : List Token) (index : Nat) :
    BeginsAt (body ++ semicolon :: rest) (body.length + 1 + index) ↔ BeginsAt rest index := by
  have htake : (body ++ semicolon :: rest).take (body.length + 1 + index) =
      (body ++ [semicolon]) ++ rest.take index := by
    rw [List.append_cons, ← List.length_singleton, ← List.length_append,
      List.take_length_add_append]
  unfold BeginsAt
  rw [htake, List.getLast?_append]
  cases hlast : (rest.take index).getLast? with
  | none => simp [hsemicolon]
  | some token => simp

/-- In front of the first semicolon one statement begins. -/
theorem filter_beginsAt {body : List Token} (hbody : Unbroken body) (rest : List Token) :
    (List.range (body.length + 1)).filter (BeginsAt (body ++ rest)) = [0] := by
  have hlater : ((List.range body.length).map Nat.succ).filter (BeginsAt (body ++ rest)) = [] := by
    rw [List.filter_eq_nil_iff, List.forall_mem_map]
    intro index hindex
    rw [decide_eq_true_iff]
    exact not_beginsAt_of_unbroken hbody (List.mem_range.1 hindex) rest
  have hfirst : decide (BeginsAt (body ++ rest) 0) = true := decide_eq_true (beginsAt_zero _)
  rw [List.range_succ_eq_map, List.filter_cons, if_pos hfirst, hlater]

theorem beginnings_of_unbroken {tokens : List Token} (hne : tokens ≠ []) (h : Unbroken tokens) :
    beginnings tokens = [0] := by
  obtain ⟨body, last, rfl⟩ := (List.eq_nil_or_concat' tokens).resolve_left hne
  unfold beginnings
  rw [List.length_append, List.length_singleton]
  exact filter_beginsAt (unbroken_concat.1 h).1 [last]

theorem beginnings_cons {body : List Token} (hbody : Unbroken body) {semicolon : Token}
    (hsemicolon : semicolon.kind = .semicolon) (rest : List Token) :
    beginnings (body ++ semicolon :: rest) =
      0 :: (beginnings rest).map (body.length + 1 + ·) := by
  have hlength : (body ++ semicolon :: rest).length = body.length + 1 + rest.length := by
    rw [List.length_append, List.length_cons, Nat.add_right_comm, Nat.add_assoc]
  have hlater : ((List.range rest.length).map (body.length + 1 + ·)).filter
      (BeginsAt (body ++ semicolon :: rest)) = (beginnings rest).map (body.length + 1 + ·) := by
    rw [List.filter_map]
    unfold beginnings
    congr 1
    apply List.filter_congr
    intro index _
    exact decide_eq_decide.2 (beginsAt_behind hsemicolon body rest index)
  unfold beginnings
  rw [hlength, List.range_add, List.filter_append, filter_beginsAt hbody, hlater]
  rfl

namespace Reader

/-- The error of a statement is the one in its first open slot. -/
theorem errors_ofStatement (tokens : List Token) (stop : Position) :
    (Recovery.ofStatement (statement ⟨tokens, stop⟩)).errors = (slotFault? stop tokens).toList := by
  generalize hresult : statement ⟨tokens, stop⟩ = result
  cases step_iff.2 hresult with
  | @sound target sign value semicolon rest _ operand htarget hsign hoperand hsemicolon =>
    have hfitting : fitting ([target, sign, value, semicolon] ++ rest) = 4 :=
      fitting_of_filled (Slot.filled_all.2
        ⟨target, sign, value, semicolon, operand, htarget, hsign, hoperand, hsemicolon, rfl⟩) rest
    simp only [List.cons_append, List.nil_append] at hfitting
    unfold slotFault?
    rw [hfitting]
    rfl
  | @faulty slot front rest _ hfront hrest =>
    have hfound : (front ++ rest)[slot.index]? = rest.head? := by
      rw [← hfront.length_eq, List.getElem?_append_right (Nat.le_refl _), Nat.sub_self,
        List.head?_eq_getElem?]
    unfold slotFault?
    rw [fitting_of_open hfront hrest, slot.getElem?_all, hfound]
    rfl

/-- Recovery reads one statement from each token at which statements begin. -/
theorem recover_eq_join_beginnings (tokens : List Token) (stop : Position) :
    recover ⟨tokens, stop⟩ = .join ((beginnings tokens).map fun index ↦
      .ofStatement (statement ⟨tokens.drop index, stop⟩)) := by
  induction tokens using segment_induction with
  | nil => exact recover_of_nil rfl
  | last body hne hbody =>
    rw [recover_eq_append hne, pastSemicolon_of_unbroken hbody, recover_of_nil rfl,
      beginnings_of_unbroken hne hbody]
    rfl
  | cons body semicolon rest hbody hsemicolon ih =>
    have hdrop (index : Nat) :
        (body ++ semicolon :: rest).drop (body.length + 1 + index) = rest.drop index := by
      rw [List.append_cons, ← List.length_singleton, ← List.length_append,
        List.drop_length_add_append]
    rw [recover_eq_append (by simp), pastSemicolon_closed hbody hsemicolon, ih,
      beginnings_cons hbody hsemicolon, List.map_cons, Recovery.join_cons, List.map_map]
    simp only [Function.comp_def, hdrop]
    rfl

/-- The errors are those in the first open slots of the statements. -/
theorem errors_recover_eq (tokens : List Token) (stop : Position) :
    (recover ⟨tokens, stop⟩).errors =
      (beginnings tokens).filterMap fun index ↦ slotFault? stop (tokens.drop index) := by
  rw [recover_eq_join_beginnings, List.filterMap_eq_flatMap_toList]
  simp only [Recovery.join, List.flatMap_map, errors_ofStatement]

/-! ## Errors and their slots -/

theorem statement_eq_error_iff {tokens : List Token} {stop : Position} {e : SlotError} :
    statement ⟨tokens, stop⟩ = .error e ↔ slotFault? stop tokens = some e := by
  rw [← Recovery.mem_errors_ofStatement, errors_ofStatement, Option.mem_toList]

/-- An error is what its slot explains. -/
theorem isExplained_of_statement {reader : Reader} {e : SlotError} (hne : reader.rest ≠ [])
    (h : reader.statement = .error e) : e.IsExplained := by
  cases step_iff.2 h with
  | @faulty slot front rest stop hfront hrest =>
    cases rest with
    | nil =>
      cases slot with
      | target =>
        obtain rfl := Slot.filledBefore_target.1 hfront
        exact absurd rfl hne
      | assign => exact .endBeforeAssign stop
      | value => exact .endBeforeValue stop
      | semicolon => exact .endBeforeSemicolon stop
    | cons found rest =>
      have hopen : ¬ slot.Admits found := hrest found rfl
      cases slot with
      | target => exact .target (Slot.admits_target.not.1 hopen)
      | assign => exact .assign (Slot.admits_assign.not.1 hopen)
      | value =>
        have hkinds : found.kind ∉ Slot.value.kinds := hopen
        simp only [Slot.kinds, List.mem_cons, List.not_mem_nil, or_false, not_or] at hkinds
        exact .value hkinds.1 hkinds.2
      | semicolon => exact .semicolon (Slot.admits_semicolon.not.1 hopen)

/-- The slot that a reader keeps at an error is the one in which the statement stays open, counted from
where it begins, and the error is about the token there or the end. Only errors of the slot's own arise
in it, and no slot that the reader was left in before has a part in it. -/
theorem slots_explain_errors (tokens : List Token) :
    (∀ slot, (SlotReader.mk (ofTokens tokens) slot).recover = (ofTokens tokens).recover) ∧
    (ofTokens tokens).recover.errors = (beginnings tokens).filterMap (fun index ↦
      slotFault? (ofTokens tokens).stop (tokens.drop index)) ∧
    ∀ e ∈ (ofTokens tokens).recover.errors, e.IsExplained ∧
      ∃ beginning ∈ beginnings tokens,
        fitting (tokens.drop beginning) = e.slot.index ∧
        beginning + e.slot.index ≤ tokens.length ∧
        e.error.found? = tokens[beginning + e.slot.index]? := by
  have herrors : (ofTokens tokens).recover.errors = (beginnings tokens).filterMap (fun index ↦
      slotFault? (ofTokens tokens).stop (tokens.drop index)) :=
    errors_recover_eq tokens (ofTokens tokens).stop
  refine ⟨SlotReader.recover_eq (ofTokens tokens), herrors, ?_⟩
  intro e he
  rw [herrors] at he
  obtain ⟨beginning, hbeginning, hopen⟩ := List.mem_filterMap.1 he
  have hinside : beginning < tokens.length := lt_length_of_mem_beginnings hbeginning
  have hne : tokens.drop beginning ≠ [] := List.drop_eq_nil_iff.not.2 (Nat.not_le_of_lt hinside)
  obtain ⟨hfitting, hfound⟩ := fitting_of_slotFault? hopen
  have hlength := fitting_le_length (tokens.drop beginning)
  rw [hfitting, List.length_drop] at hlength
  refine ⟨isExplained_of_statement hne (statement_eq_error_iff.2 hopen), beginning, hbeginning,
    hfitting, by omega, ?_⟩
  rw [hfound, List.getElem?_drop]

end Reader

end StraightLine
