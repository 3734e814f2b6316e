import StraightLine.Proofs.Token.Order

/-!
# Lexing step by step and at once

A lexer can be asked for one thing after the other, or for all tokens at once, also after it has handed
out some. What it hands out one by one, and that nothing comes after it, is what it `Yields`. The tokens
that it finds at once are those that it yields (`tokenize_eq_ok_iff`, `tokenize_eq_error_iff`), and the
ones that it has handed out before come in front of them (`tokenize_of_handed`).
-/

namespace StraightLine

namespace Attempt

variable {α ε : Type} {attempt later : Attempt α ε}

theorem toExcept_of_results {items : List α} (h : attempt.results = items.map .ok ++ later.results) :
    attempt.toExcept = later.toExcept.map (items ++ ·) := by
  have hattempt : attempt = ⟨items ++ later.items, later.failure?⟩ := by
    apply results_injective
    rw [h, results, results, List.map_append, List.append_assoc]
  rw [hattempt]
  obtain ⟨others, failure?⟩ := later
  cases failure? <;> rfl

/-- A failure is the last thing that an attempt gives. -/
theorem failure?_of_results {index : ℕ} {e : ε} (h : attempt.results[index]? = some (.error e)) :
    attempt.failure? = some e ∧ attempt.results.length = index + 1 := by
  obtain ⟨items, failure?⟩ := attempt
  obtain ⟨hindex, hget⟩ := List.getElem?_eq_some_iff.1 h
  cases failure? with
  | none => simp [results] at hget
  | some e' =>
    have hlength : (mk items (some e')).results.length = items.length + 1 := by simp [results]
    rcases Nat.lt_or_ge index items.length with hitem | hitem
    · simp [results, List.getElem_append_left, hitem] at hget
    · obtain rfl : index = items.length := by omega
      refine ⟨?_, hlength⟩
      simpa [results] using hget

end Attempt

namespace Token.Lexer

def handed (lexer : Lexer) : ℕ → List (Except UnknownCharacter Token)
  | 0 => []
  | count + 1 => lexer.next.1.toList ++ lexer.next.2.handed count

/-- Whether some things are all that a lexer hands out when it is asked again and again. -/
def Yields (lexer : Lexer) (items : List (Except UnknownCharacter Token)) : Prop :=
  ∀ index, (lexer.after index).next.1 = items[index]?

variable {lexer : Lexer} {count : ℕ}

theorem handed_eq_take (lexer : Lexer) (count : ℕ) :
    lexer.handed count = lexer.remaining.results.take count := by
  induction count generalizing lexer with
  | zero => rfl
  | succ count ih =>
    obtain ⟨hnext, hlater⟩ := next_eq lexer
    rw [handed, ih, hnext, hlater]
    cases lexer.remaining.results with
    | nil => exact List.take_nil
    | cons item items => rfl

theorem handed_append_results_after (lexer : Lexer) (count : ℕ) :
    lexer.handed count ++ (lexer.after count).remaining.results = lexer.remaining.results := by
  rw [handed_eq_take, results_after, List.take_append_drop]

theorem yields_iff {items : List (Except UnknownCharacter Token)} :
    lexer.Yields items ↔ lexer.remaining.results = items := by
  simp only [Yields, next_after, ← List.ext_getElem?_iff]

theorem tokenize_eq_ok_iff {tokens : List Token} :
    lexer.tokenize = .ok tokens ↔ lexer.Yields (tokens.map .ok) := by
  rw [yields_iff, Attempt.results_eq_map_ok_iff, tokenize, Attempt.toExcept_eq_ok_iff]
  constructor
  · intro h
    obtain ⟨hfailure, hitems⟩ := h
    rw [← hfailure, ← hitems]
  · intro h
    rw [h]
    exact ⟨rfl, rfl⟩

theorem tokenize_eq_error_iff {e : UnknownCharacter} :
    lexer.tokenize = .error e ↔ ∃ tokens : List Token, lexer.Yields (tokens.map .ok ++ [.error e]) := by
  simp only [yields_iff, Attempt.results_eq_fault_iff]
  rw [tokenize, Attempt.toExcept_eq_error_iff]
  constructor
  · intro h
    exact ⟨lexer.remaining.items, by rw [← h]⟩
  · intro h
    obtain ⟨tokens, htokens⟩ := h
    rw [htokens]

/-- Tokens that have been handed out come in front of those that are found at once afterwards. -/
theorem tokenize_of_handed {taken : List Token} (h : lexer.handed count = taken.map .ok) :
    lexer.tokenize = (lexer.after count).tokenize.map (taken ++ ·) := by
  apply Attempt.toExcept_of_results
  rw [← h, handed_append_results_after]

/-- Behind an error nothing comes. -/
theorem yields_nil_of_mem_handed {e : UnknownCharacter} (h : .error e ∈ lexer.handed count) :
    lexer.tokenize = .error e ∧ (lexer.after count).Yields [] := by
  rw [handed_eq_take] at h
  obtain ⟨index, hindex, hget⟩ := List.mem_take_iff_getElem.1 h
  obtain ⟨hfailure, hlength⟩ :=
    Attempt.failure?_of_results (List.getElem?_eq_some_iff.2 ⟨_, hget⟩)
  refine ⟨Attempt.toExcept_eq_error_iff.2 hfailure, yields_iff.2 ?_⟩
  rw [results_after]
  exact List.drop_eq_nil_of_le (by omega)

theorem yields_nil_of_length_le {tokens : List Token} (h : lexer.tokenize = .ok tokens)
    (hlength : tokens.length ≤ count) : (lexer.after count).Yields [] := by
  have hyields : lexer.remaining.results = tokens.map .ok := yields_iff.1 (tokenize_eq_ok_iff.1 h)
  rw [yields_iff, results_after, hyields]
  exact List.drop_eq_nil_of_le (by simpa using hlength)

/-- Asking for things one by one and for all tokens at once find the same in a source, however often a
lexer has been asked before. Behind an unknown character, or the last token, nothing comes any more. -/
theorem tokenize_resumes (source : String) (count : ℕ) :
    (∀ tokens, ((ofSource source).after count).tokenize = .ok tokens ↔
      ((ofSource source).after count).Yields (tokens.map .ok)) ∧
    (∀ e, ((ofSource source).after count).tokenize = .error e ↔
      ∃ tokens : List Token, ((ofSource source).after count).Yields (tokens.map .ok ++ [.error e])) ∧
    (∀ taken : List Token, (ofSource source).handed count = taken.map .ok →
      (ofSource source).tokenize = ((ofSource source).after count).tokenize.map (taken ++ ·)) ∧
    (∀ e, .error e ∈ (ofSource source).handed count →
      (ofSource source).tokenize = .error e ∧ ((ofSource source).after count).Yields [] ∧
        ((ofSource source).after count).tokenize = .ok []) ∧
    (∀ e, (ofSource source).tokenize = .error e →
      ∃ tokens : List Token, (ofSource source).Yields (tokens.map .ok ++ [.error e]) ∧
        ∀ token ∈ tokens, token.stop ≤ e.position) ∧
    ∀ tokens, (ofSource source).tokenize = .ok tokens → tokens.length ≤ count →
      ((ofSource source).after count).Yields [] := by
  refine ⟨fun tokens ↦ tokenize_eq_ok_iff, fun e ↦ tokenize_eq_error_iff,
    fun taken ↦ tokenize_of_handed, ?_, ?_, fun tokens ↦ yields_nil_of_length_le⟩
  · intro e he
    obtain ⟨herror, hyields⟩ := yields_nil_of_mem_handed he
    exact ⟨herror, hyields, tokenize_eq_ok_iff.2 hyields⟩
  · intro e he
    obtain ⟨tokens, htokens⟩ := tokenize_eq_error_iff.1 he
    have hscan : (Cursor.start source).scan grammar = ⟨tokens, some e⟩ :=
      Attempt.results_eq_fault_iff.1 (yields_iff.1 htokens)
    have horder := (Cursor.scan_in_order (.start source)).2.2 e (congrArg Attempt.failure? hscan)
    rw [hscan] at horder
    exact ⟨tokens, htokens, horder.2⟩

end Token.Lexer

end StraightLine
