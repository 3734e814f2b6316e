import StraightLine.Proofs.Program.Recovery

/-!
# Readers moved by hand

A reader can be moved token by token: it shows the next token, goes past it, or takes it if it is of a
given kind. `Moves` says what each of these does in terms of the index of the next token, and
`operations_move_index` that a reader goes through any number of them as these rules have it. Wherever
it has come to stand, it reads on like a reader of the tokens from there on.
-/

namespace StraightLine.Reader

/-! ## Operations -/

inductive Operation
  | current
  | advance
  | expect (kind : Token.Kind)
deriving DecidableEq

inductive Observation
  | shown (token? : Option Token)
  | moved
  | taken (result : Except SyntaxError Token)

def perform (reader : Reader) : Operation → Observation × Reader
  | .current => (.shown reader.current?, reader)
  | .advance => (.moved, reader.skip 1)
  | .expect kind => (.taken (reader.take kind).1, (reader.take kind).2)

def performAll (reader : Reader) : List Operation → List Observation × Reader
  | [] => ([], reader)
  | operation :: operations =>
    let later := (reader.perform operation).2.performAll operations
    ((reader.perform operation).1 :: later.1, later.2)

/-! ## Operations by the index of the next token -/

/-- What is seen of an operation when the token with some index is next, and which one is next then. -/
inductive Moves (tokens : List Token) : ℕ → Operation → Observation → ℕ → Prop
  | current {index : ℕ} : Moves tokens index .current (.shown tokens[index]?) index
  | advance {index : ℕ} (h : index < tokens.length) :
      Moves tokens index .advance .moved (index + 1)
  | stay {index : ℕ} (h : index = tokens.length) : Moves tokens index .advance .moved index
  | expect {index : ℕ} {token : Token} {kind : Token.Kind} (h : tokens[index]? = some token)
      (hkind : token.kind = kind) :
      Moves tokens index (.expect kind) (.taken (.ok token)) (index + 1)
  | refuse {index : ℕ} {token : Token} {kind : Token.Kind} (h : tokens[index]? = some token)
      (hkind : token.kind ≠ kind) :
      Moves tokens index (.expect kind) (.taken (.error (.otherKind kind token))) index
  | lack {index : ℕ} {kind : Token.Kind} (h : index = tokens.length) :
      Moves tokens index (.expect kind) (.taken (.error (.endOfInput (.token kind)
        ((tokens.getLast?.map Token.stop).getD ⟨0, 1, 1⟩)))) index

inductive MovesAll (tokens : List Token) : ℕ → List Operation → List Observation → ℕ → Prop
  | nil {index : ℕ} : MovesAll tokens index [] [] index
  | cons {index next last : ℕ} {operation : Operation} {operations : List Operation}
      {observation : Observation} {observations : List Observation}
      (hfirst : Moves tokens index operation observation next)
      (hrest : MovesAll tokens next operations observations last) :
      MovesAll tokens index (operation :: operations) (observation :: observations) last

section Moves

variable {tokens : List Token} {index next : ℕ} {operation : Operation} {observation : Observation}

theorem exists_moves (h : index ≤ tokens.length) (operation : Operation) :
    ∃ observation next, Moves tokens index operation observation next := by
  rcases Nat.lt_or_eq_of_le h with hlt | heq
  · have htoken := List.getElem?_eq_getElem hlt
    cases operation with
    | current => exact ⟨_, _, .current⟩
    | advance => exact ⟨_, _, .advance hlt⟩
    | expect kind =>
      by_cases hkind : tokens[index].kind = kind
      · exact ⟨_, _, .expect htoken hkind⟩
      · exact ⟨_, _, .refuse htoken hkind⟩
  · cases operation with
    | current => exact ⟨_, _, .current⟩
    | advance => exact ⟨_, _, .stay heq⟩
    | expect kind => exact ⟨_, _, .lack heq⟩

/-- No operation leads past the end. -/
theorem Moves.le_length (h : Moves tokens index operation observation next)
    (hindex : index ≤ tokens.length) : next ≤ tokens.length := by
  cases h with
  | current | stay | refuse | lack => exact hindex
  | advance hlt => exact hlt
  | expect htoken hkind => exact (List.getElem?_eq_some_iff.1 htoken).1

/-- The reader that has some token next. -/
theorem skip_of_getElem? {token : Token} (h : tokens[index]? = some token) :
    (ofTokens tokens).skip index = ⟨token :: tokens.drop (index + 1), (ofTokens tokens).stop⟩ := by
  obtain ⟨hlt, rfl⟩ := List.getElem?_eq_some_iff.1 h
  exact congrArg (Reader.mk · _) (List.drop_eq_getElem_cons hlt)

theorem skip_length (tokens : List Token) :
    (ofTokens tokens).skip tokens.length = ⟨[], (ofTokens tokens).stop⟩ :=
  congrArg (Reader.mk · _) List.drop_length

theorem skip_inj {other : ℕ} (h : index ≤ tokens.length) (hother : other ≤ tokens.length) :
    (ofTokens tokens).skip index = (ofTokens tokens).skip other ↔ index = other := by
  constructor
  · intro hsame
    have hlength := congrArg (fun reader ↦ reader.rest.length) hsame
    simp only [length_rest_skip, ofTokens] at hlength
    omega
  · exact congrArg _

/-- A reader does what the rules on the index of its next token say. -/
theorem Moves.perform_skip (h : Moves tokens index operation observation next) :
    ((ofTokens tokens).skip index).perform operation =
      (observation, (ofTokens tokens).skip next) := by
  cases h with
  | current =>
    have hhead : ((ofTokens tokens).skip index).current? = tokens[index]? := List.head?_drop
    rw [perform, hhead]
  | advance hlt =>
    have htoken := skip_of_getElem? (List.getElem?_eq_getElem hlt)
    rw [htoken]
    rfl
  | stay heq =>
    rw [heq, skip_length]
    rfl
  | @expect token kind htoken hkind =>
    rw [skip_of_getElem? htoken]
    simp only [perform, take, Reader.expect, hkind, if_true]
    rfl
  | @refuse token kind htoken hkind =>
    rw [skip_of_getElem? htoken]
    simp only [perform, take, Reader.expect, hkind, if_false]
  | lack heq =>
    rw [heq, skip_length]
    rfl

end Moves

section MovesAll

variable {tokens : List Token} {index last : ℕ} {operations : List Operation}
  {observations : List Observation}

theorem exists_movesAll (h : index ≤ tokens.length) (operations : List Operation) :
    ∃ observations last, MovesAll tokens index operations observations last := by
  induction operations generalizing index with
  | nil => exact ⟨_, _, .nil⟩
  | cons operation operations ih =>
    obtain ⟨observation, next, hfirst⟩ := exists_moves h operation
    obtain ⟨observations, last, hrest⟩ := ih (hfirst.le_length h)
    exact ⟨_, _, .cons hfirst hrest⟩

theorem MovesAll.le_length (h : MovesAll tokens index operations observations last)
    (hindex : index ≤ tokens.length) : last ≤ tokens.length := by
  induction h with
  | nil => exact hindex
  | cons hfirst hrest ih => exact ih (hfirst.le_length hindex)

theorem MovesAll.performAll_skip (h : MovesAll tokens index operations observations last) :
    ((ofTokens tokens).skip index).performAll operations =
      (observations, (ofTokens tokens).skip last) := by
  induction h with
  | nil => rfl
  | cons hfirst hrest ih => simp only [performAll, hfirst.perform_skip, ih]

/-- The rules leave nothing open. -/
theorem MovesAll.unique {observations' : List Observation} {last' : ℕ}
    (h : MovesAll tokens index operations observations last)
    (h' : MovesAll tokens index operations observations' last') (hindex : index ≤ tokens.length) :
    observations = observations' ∧ last = last' := by
  obtain ⟨hobservations, hskip⟩ := Prod.mk.inj (h.performAll_skip.symm.trans h'.performAll_skip)
  exact ⟨hobservations, (skip_inj (h.le_length hindex) (h'.le_length hindex)).1 hskip⟩

end MovesAll

/-- An expectation that fails leaves the reader where it is. -/
theorem take_of_error {reader : Reader} {kind : Token.Kind} {e : SyntaxError}
    (h : (reader.take kind).1 = .error e) : (reader.take kind).2 = reader := by
  unfold take at h ⊢
  split at h
  · cases h
  · rfl

/-- Some operations lead a reader to an index within its tokens, by the rules on that index. It reads and
recovers from there on like a reader of the tokens from that index on, and an expectation that fails
leaves it as it is. -/
theorem operations_move_index (tokens : List Token) (operations : List Operation) :
    ∃ index ≤ tokens.length,
      (∀ observations last, MovesAll tokens 0 operations observations last ↔
        observations = ((ofTokens tokens).performAll operations).1 ∧ last = index) ∧
      (((ofTokens tokens).performAll operations).2).program =
        (ofTokens (tokens.drop index)).program ∧
      (((ofTokens tokens).performAll operations).2).recover =
        (ofTokens (tokens.drop index)).recover ∧
      ∀ kind e, (((ofTokens tokens).performAll operations).2.take kind).1 = .error e →
        (((ofTokens tokens).performAll operations).2.take kind).2 =
          ((ofTokens tokens).performAll operations).2 := by
  obtain ⟨observations, index, hmoves⟩ := exists_movesAll (Nat.zero_le tokens.length) operations
  have hindex : index ≤ tokens.length := hmoves.le_length (Nat.zero_le _)
  have hperform : (ofTokens tokens).performAll operations =
      (observations, (ofTokens tokens).skip index) := hmoves.performAll_skip
  refine ⟨index, hindex, ?_, ?_, ?_, fun kind e ↦ take_of_error⟩
  · intro observations' last
    rw [hperform]
    constructor
    · intro hmoves'
      exact hmoves'.unique hmoves (Nat.zero_le _)
    · intro h
      obtain ⟨rfl, rfl⟩ := h
      exact hmoves
  · have hprogram := program_behind (tokens.take index) (tokens.drop index)
    rw [List.take_append_drop] at hprogram
    rw [hperform]
    exact hprogram
  · have hrecover := recover_behind (tokens.take index) (tokens.drop index)
    rw [List.take_append_drop] at hrecover
    rw [hperform]
    exact hrecover

end StraightLine.Reader
