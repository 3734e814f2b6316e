import StraightLine.Proofs.Text.Blank
import StraightLine.Token.Grammar
import Mathlib.Tactic.Common

/-!
# What a pattern finds

A pattern finds a text at the front of a longer one exactly if it spells the text and the rest lets
it end there: `Pattern.lexeme?_eq_some_iff`. A reserved word ends where no word character follows, a
name where no name character does, and a number where neither a digit nor, if it has no fraction
yet, a fraction follows.
-/

namespace StraightLine.Token

open Text

/-! ## Characters -/

theorem isNameCharacter_iff {c : Char} :
    isNameCharacter c = true ↔ isNameStart c = true ∨ c.isDigit = true := by
  simp only [isNameStart, isNameCharacter, Char.isAlphanum, Bool.or_eq_true, decide_eq_true_eq]
  tauto

theorem isNameCharacter_of_isDigit {c : Char} (h : c.isDigit = true) :
    isNameCharacter c = true :=
  isNameCharacter_iff.2 (.inr h)

theorem isNameCharacter_eq_false_iff {c : Char} :
    isNameCharacter c = false ↔ isNameStart c = false ∧ c.isDigit = false := by
  rw [← Bool.not_eq_true, isNameCharacter_iff, not_or, Bool.not_eq_true, Bool.not_eq_true]

theorem isNameStart_iff_toNat {c : Char} :
    isNameStart c = true ↔
      (0x41 ≤ c.toNat ∧ c.toNat ≤ 0x5A ∨ 0x61 ≤ c.toNat ∧ c.toNat ≤ 0x7A) ∨ c.toNat = 0x5F := by
  rw [isNameStart, Bool.or_eq_true, decide_eq_true_eq, isAlpha_iff_toNat, eq_lowLine_iff_toNat]

theorem isNameStart_eq_false_of_isDigit {c : Char} (h : c.isDigit = true) :
    isNameStart c = false := by
  rw [isDigit_iff_toNat] at h
  rw [← Bool.not_eq_true, isNameStart_iff_toNat]
  omega

theorem toNat_lt_of_isNameCharacter {c : Char} (h : isNameCharacter c = true) :
    c.toNat < 0xAA := by
  rw [isNameCharacter_iff, isNameStart_iff_toNat, isDigit_iff_toNat] at h
  omega

theorem isWordCharacter_of_isNameCharacter {c : Char} (h : isNameCharacter c = true) :
    isWordCharacter c = true := by
  rw [isWordCharacter_iff_of_lt (toNat_lt_of_isNameCharacter h)]
  simpa [isNameCharacter] using h

theorem isNameCharacter_eq_false_of_isWhiteSpace {c : Char} (h : isWhiteSpace c = true) :
    isNameCharacter c = false := by
  have hword := isWordCharacter_eq_false_of_isWhiteSpace h
  by_contra hname
  rw [isWordCharacter_of_isNameCharacter (by simpa using hname)] at hword
  cases hword

/-! ## Patterns -/

namespace Pattern

/-- Whether the words of a pattern, if it has any, could be names. -/
def HasNames : Pattern → Prop
  | word words => ∀ w ∈ words, name.Spells w.toList
  | _ => True

def Ends : Pattern → List Char → List Char → Prop
  | word _, _, rest => Stops isWordCharacter rest
  | name, _, rest => Stops isNameCharacter rest
  | numeral, lexeme, rest => Stops Char.isDigit rest ∧ ('.' ∈ lexeme ∨ fraction rest = [])
  | mark _, _, _ => True

theorem endsWord_iff {rest : List Char} : endsWord rest = true ↔ Stops isWordCharacter rest := by
  cases rest <;> simp [endsWord]

theorem isNameCharacter_of_spells_name {lexeme : List Char} (h : name.Spells lexeme) :
    ∀ c ∈ lexeme, isNameCharacter c = true := by
  obtain ⟨first, others, rfl, hfirst, hothers⟩ := h
  intro c hc
  rcases List.mem_cons.1 hc with rfl | hc
  · exact isNameCharacter_iff.2 (.inl hfirst)
  · exact hothers c hc

theorem standsAt_iff {word : String} {text : List Char} :
    standsAt word text = true ↔
      word ≠ "" ∧ ∃ rest, text = word.toList ++ rest ∧ Stops isWordCharacter rest := by
  simp only [standsAt, Bool.and_eq_true, decide_eq_true_eq, List.isPrefixOf_iff_prefix,
    endsWord_iff, and_assoc]
  refine and_congr_right fun _ ↦ ⟨?_, ?_⟩
  · intro h
    obtain ⟨⟨rest, rfl⟩, hstop⟩ := h
    rw [← String.length_toList, List.drop_left] at hstop
    exact ⟨rest, rfl, hstop⟩
  · intro h
    obtain ⟨rest, rfl, hstop⟩ := h
    rw [← String.length_toList, List.drop_left]
    exact ⟨List.prefix_append _ _, hstop⟩

/-- Where two runs of a class both stop in one text, they are the same. -/
theorem eq_of_append_eq_append {p : Char → Bool} {run run' rest rest' : List Char}
    (hrun : ∀ c ∈ run, p c = true) (hrest : Stops p rest) (hrun' : ∀ c ∈ run', p c = true)
    (hrest' : Stops p rest') (h : run ++ rest = run' ++ rest') : run = run' ∧ rest = rest' := by
  have htake := congrArg (List.takeWhile p) h
  have hdrop := congrArg (List.dropWhile p) h
  rw [takeWhile_append_of_stops hrun hrest, takeWhile_append_of_stops hrun' hrest'] at htake
  rw [dropWhile_append_of_stops hrun hrest, dropWhile_append_of_stops hrun' hrest'] at hdrop
  exact ⟨htake, hdrop⟩

theorem lexeme?_word_eq_some_iff {words : List String} (hwords : (word words).HasNames)
    {text lexeme : List Char} :
    (word words).lexeme? text = some lexeme ↔
      ∃ rest, text = lexeme ++ rest ∧ (word words).Spells lexeme ∧
        (word words).Ends lexeme rest := by
  have hrun : ∀ w ∈ words, ∀ c ∈ w.toList, isWordCharacter c = true := fun w hw c hc ↦
    isWordCharacter_of_isNameCharacter (isNameCharacter_of_spells_name (hwords w hw) c hc)
  rw [lexeme?, Option.map_eq_some_iff]
  constructor
  · intro h
    obtain ⟨w, hfind, rfl⟩ := h
    have hstands := List.find?_some (p := (standsAt · text)) hfind
    obtain ⟨-, rest, htext, hstop⟩ := standsAt_iff.1 hstands
    exact ⟨rest, htext, ⟨w, List.mem_of_find?_eq_some hfind, rfl⟩, hstop⟩
  · intro h
    obtain ⟨rest, rfl, ⟨w, hw, rfl⟩, hstop⟩ := h
    have hnonempty : w ≠ "" := by
      intro hempty
      subst hempty
      obtain ⟨c, others, hcons, -⟩ := hwords "" hw
      cases hcons
    have hsome : (words.find? (standsAt · (w.toList ++ rest))).isSome :=
      List.find?_isSome.2 ⟨w, hw, standsAt_iff.2 ⟨hnonempty, rest, rfl, hstop⟩⟩
    obtain ⟨other, hfind⟩ := Option.isSome_iff_exists.1 hsome
    have hstands := List.find?_some (p := (standsAt · (w.toList ++ rest))) hfind
    obtain ⟨-, rest', htext, hstop'⟩ := standsAt_iff.1 hstands
    have hother := List.mem_of_find?_eq_some hfind
    obtain ⟨heq, -⟩ := eq_of_append_eq_append (hrun w hw) hstop (hrun other hother) hstop' htext
    exact ⟨other, hfind, heq.symm⟩

theorem lexeme?_name_eq_some_iff {text lexeme : List Char} :
    name.lexeme? text = some lexeme ↔
      ∃ rest, text = lexeme ++ rest ∧ name.Spells lexeme ∧ name.Ends lexeme rest := by
  constructor
  · intro h
    cases text with
    | nil => simp [lexeme?] at h
    | cons c text =>
      rw [lexeme?, Option.ite_none_right_eq_some, Option.some.injEq] at h
      obtain ⟨hc, rfl⟩ := h
      refine ⟨text.dropWhile isNameCharacter, ?_, ?_, stops_dropWhile _ _⟩
      · rw [List.cons_append, List.takeWhile_append_dropWhile]
      · exact ⟨c, _, rfl, hc, fun d hd ↦ of_mem_takeWhile hd⟩
  · intro h
    obtain ⟨rest, rfl, ⟨c, others, rfl, hc, hothers⟩, hstop⟩ := h
    rw [List.cons_append, lexeme?, if_pos hc, takeWhile_append_of_stops hothers hstop]

theorem fraction_eq_nil_iff {text : List Char} :
    fraction text = [] ↔ ∀ rest, text = '.' :: rest → Stops Char.isDigit rest := by
  unfold fraction
  split
  · next rest =>
    simp only [List.cons.injEq, true_and, forall_eq']
    cases rest with
    | nil => simp
    | cons d rest => by_cases hd : d.isDigit = true <;> simp [hd]
  · next hpoint => exact iff_of_true rfl fun rest h ↦ absurd h (hpoint rest)

/-- A fraction is found whole, or there is none. -/
theorem fraction_cons {digits rest : List Char} (hdigits : IsDigits digits)
    (hrest : Stops Char.isDigit rest) : fraction ('.' :: (digits ++ rest)) = '.' :: digits := by
  simp only [fraction, takeWhile_append_of_stops hdigits.2 hrest]
  split
  · exact absurd rfl hdigits.1
  · rfl

theorem isDigits_takeWhile {text : List Char} (h : text.takeWhile Char.isDigit ≠ []) :
    IsDigits (text.takeWhile Char.isDigit) :=
  ⟨h, fun _ hc ↦ of_mem_takeWhile hc⟩

theorem stops_isDigit_point (text : List Char) : Stops Char.isDigit ('.' :: text) := by
  simp [Char.isDigit]

theorem not_mem_of_isDigits {lexeme : List Char} (h : IsDigits lexeme) : '.' ∉ lexeme := by
  intro hpoint
  have := h.2 '.' hpoint
  simp [Char.isDigit] at this

/-- What `fraction` finds after a run of digits, and what it leaves. -/
theorem exists_fraction {text : List Char} (h : Stops Char.isDigit text) :
    (fraction text = [] ∧ Stops Char.isDigit text) ∨
      ∃ digits rest, text = '.' :: (digits ++ rest) ∧ IsDigits digits ∧
        Stops Char.isDigit rest ∧ fraction text = '.' :: digits := by
  by_cases hnone : fraction text = []
  · exact .inl ⟨hnone, h⟩
  · right
    obtain ⟨rest, rfl, hdigit⟩ : ∃ rest, text = '.' :: rest ∧ ¬ Stops Char.isDigit rest := by
      simpa [fraction_eq_nil_iff] using hnone
    have hdigits : rest.takeWhile Char.isDigit ≠ [] := by
      intro hnil
      apply hdigit
      rw [← List.takeWhile_append_dropWhile (p := Char.isDigit) (l := rest), hnil]
      exact stops_dropWhile _ _
    have hstop := stops_dropWhile Char.isDigit rest
    have htext : rest = rest.takeWhile Char.isDigit ++ rest.dropWhile Char.isDigit :=
      List.takeWhile_append_dropWhile.symm
    refine ⟨_, _, congrArg _ htext, isDigits_takeWhile hdigits, hstop, ?_⟩
    conv_lhs => rw [htext]
    exact fraction_cons (isDigits_takeWhile hdigits) hstop

theorem lexeme?_numeral_of_isDigits {whole rest : List Char} (hwhole : IsDigits whole)
    (hrest : Stops Char.isDigit rest) :
    numeral.lexeme? (whole ++ rest) = some (whole ++ fraction rest) := by
  simp only [lexeme?, takeWhile_append_of_stops hwhole.2 hrest,
    dropWhile_append_of_stops hwhole.2 hrest]
  split
  · exact absurd rfl hwhole.1
  · rfl

theorem lexeme?_numeral_eq_some_iff {text lexeme : List Char} :
    numeral.lexeme? text = some lexeme ↔
      ∃ rest, text = lexeme ++ rest ∧ numeral.Spells lexeme ∧ numeral.Ends lexeme rest := by
  constructor
  · intro h
    have hdigits : text.takeWhile Char.isDigit ≠ [] := by
      intro hnil
      simp [lexeme?, hnil] at h
    have hwhole := isDigits_takeWhile hdigits
    have htext : text = text.takeWhile Char.isDigit ++ text.dropWhile Char.isDigit :=
      List.takeWhile_append_dropWhile.symm
    have hstop := stops_dropWhile Char.isDigit text
    rw [htext, lexeme?_numeral_of_isDigits hwhole hstop, Option.some.injEq] at h
    rcases exists_fraction hstop with ⟨hnone, -⟩ | ⟨digits, rest, hpoint, hdigits, hrest, hsome⟩
    · rw [hnone, List.append_nil] at h
      subst h
      exact ⟨_, htext, .inl hwhole, hstop, .inr hnone⟩
    · rw [hsome] at h
      refine ⟨rest, ?_, .inr ⟨_, digits, h.symm, hwhole, hdigits⟩, hrest, .inl ?_⟩
      · rw [← h, List.append_assoc, List.cons_append, ← hpoint]
        exact htext
      · rw [← h]
        simp
  · intro h
    obtain ⟨rest, rfl, hspells | ⟨whole, digits, rfl, hwhole, hdigits⟩, hrest, hfraction⟩ := h
    · have hnone := hfraction.resolve_left (not_mem_of_isDigits hspells)
      rw [lexeme?_numeral_of_isDigits hspells hrest, hnone, List.append_nil]
    · rw [List.append_assoc, List.cons_append,
        lexeme?_numeral_of_isDigits hwhole (stops_isDigit_point _), fraction_cons hdigits hrest]

theorem lexeme?_mark_eq_some_iff {characters text lexeme : List Char} :
    (mark characters).lexeme? text = some lexeme ↔
      ∃ rest, text = lexeme ++ rest ∧ (mark characters).Spells lexeme ∧
        (mark characters).Ends lexeme rest := by
  cases text with
  | nil =>
    simp only [lexeme?, reduceCtorEq, false_iff]
    intro h
    obtain ⟨rest, htext, ⟨c, -, rfl⟩, -⟩ := h
    cases htext
  | cons c text =>
    rw [lexeme?, Option.ite_none_right_eq_some, Option.some.injEq]
    constructor
    · intro h
      obtain ⟨hc, rfl⟩ := h
      exact ⟨text, rfl, ⟨c, hc, rfl⟩, trivial⟩
    · intro h
      obtain ⟨rest, htext, ⟨d, hd, rfl⟩, -⟩ := h
      cases htext
      exact ⟨hd, rfl⟩

/-- A pattern finds what it spells, where that ends. -/
theorem lexeme?_eq_some_iff {pattern : Pattern} (h : pattern.HasNames) {text lexeme : List Char} :
    pattern.lexeme? text = some lexeme ↔
      ∃ rest, text = lexeme ++ rest ∧ pattern.Spells lexeme ∧ pattern.Ends lexeme rest := by
  cases pattern with
  | word words => exact lexeme?_word_eq_some_iff h
  | name => exact lexeme?_name_eq_some_iff
  | numeral => exact lexeme?_numeral_eq_some_iff
  | mark characters => exact lexeme?_mark_eq_some_iff

end Pattern

end StraightLine.Token
