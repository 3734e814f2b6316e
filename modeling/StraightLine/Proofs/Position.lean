import StraightLine.Position
import Mathlib.Data.List.DropRight
import Mathlib.Order.Basic

/-!
# Counted positions

The position of a character can be found without reading what stands before it in order: the
offset is the number of bytes before it, the line counts the line feeds before it, and the column
counts the characters since the last of them. `advanceOver_ofText` says that a position moved over
the characters of a text one by one is the counted one, and `advanceOver_eq_self_iff` that it moves
whenever there is something to move over.
-/

namespace StraightLine.Position

/-- The position just past a text that stands at the front of a source. -/
def ofText (text : List Char) : Position where
  offset := (String.ofList text).utf8ByteSize
  line := 1 + text.count '\n'
  column := 1 + (text.rtakeWhile (· ≠ '\n')).length

@[simp] theorem ofText_nil : ofText [] = start := by
  simp [ofText, start]

theorem utf8ByteSize_ofList_append (text later : List Char) :
    (String.ofList (text ++ later)).utf8ByteSize =
      (String.ofList text).utf8ByteSize + (String.ofList later).utf8ByteSize := by
  rw [String.ofList_append, String.utf8ByteSize_append]

theorem utf8ByteSize_ofList_singleton (c : Char) :
    (String.ofList [c]).utf8ByteSize = c.utf8Size := by
  rw [← String.utf8ByteSize_singleton]
  rfl

theorem ofText_concat (text : List Char) (c : Char) :
    ofText (text ++ [c]) = (ofText text).advance c := by
  unfold ofText advance
  rw [utf8ByteSize_ofList_append, utf8ByteSize_ofList_singleton, List.count_append]
  by_cases hc : c = '\n'
  · subst hc
    simp [Nat.add_assoc]
  · simp [hc, Nat.add_assoc]

/-- Moving over characters one by one and counting them give the same position. -/
theorem advanceOver_ofText (before text : List Char) :
    (ofText before).advanceOver text = ofText (before ++ text) := by
  induction text generalizing before with
  | nil => simp
  | cons c text ih =>
    rw [advanceOver_cons, ← ofText_concat, ih, List.append_assoc, List.singleton_append]

/-- Over characters that are no line feeds only the offset and the column move. -/
theorem advanceOver_of_not_mem {text : List Char} (h : '\n' ∉ text) (p : Position) :
    p.advanceOver text =
      ⟨p.offset + (String.ofList text).utf8ByteSize, p.line, p.column + text.length⟩ := by
  induction text generalizing p with
  | nil => simp
  | cons c text ih =>
    rw [List.mem_cons, not_or] at h
    have hsize := utf8ByteSize_ofList_append [c] text
    rw [utf8ByteSize_ofList_singleton, List.singleton_append] at hsize
    rw [advanceOver_cons, ih h.2, advance, if_neg (Ne.symm h.1), hsize, List.length_cons]
    simp only [mk.injEq, true_and]
    omega

/-- A position is not later than another if it is not behind it in bytes, and neither on a later
line nor further right on the same one. -/
instance : Preorder Position where
  le p q := p.offset ≤ q.offset ∧ (p.line < q.line ∨ p.line = q.line ∧ p.column ≤ q.column)
  le_refl p := by simp
  le_trans p q r hpq hqr := by omega

theorem le_def {p q : Position} :
    p ≤ q ↔ p.offset ≤ q.offset ∧ (p.line < q.line ∨ p.line = q.line ∧ p.column ≤ q.column) :=
  Iff.rfl

theorem offset_advance (p : Position) (c : Char) :
    (p.advance c).offset = p.offset + c.utf8Size := by
  unfold advance
  split <;> rfl

theorem le_advance (p : Position) (c : Char) : p ≤ p.advance c := by
  rw [le_def, offset_advance]
  refine ⟨by omega, ?_⟩
  unfold advance
  split <;> simp

theorem le_advanceOver (p : Position) (text : List Char) : p ≤ p.advanceOver text := by
  induction text generalizing p with
  | nil => exact le_refl p
  | cons c text ih => exact (le_advance p c).trans (ih (p.advance c))

/-- A position stays where it is only if there is nothing to move over. -/
theorem advanceOver_eq_self_iff {p : Position} {text : List Char} :
    p.advanceOver text = p ↔ text = [] := by
  constructor
  · intro hstay
    by_contra htext
    obtain ⟨c, text, rfl⟩ := List.exists_cons_of_ne_nil htext
    have hlater := (le_def.1 (le_advanceOver (p.advance c) text)).1
    rw [← advanceOver_cons, hstay, offset_advance] at hlater
    have hsize := c.utf8Size_pos
    omega
  · intro htext
    subst htext
    rfl

end StraightLine.Position
