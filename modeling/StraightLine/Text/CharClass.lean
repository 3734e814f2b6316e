/-!
# Classes of characters

A class of characters is a table of closed ranges of code points. The ranges of a table stand in
increasing order and do not overlap, so a search may stop at the first range that begins above the
character it looks for. `contains_iff` says that the search decides membership in some range.
-/

namespace StraightLine.Text

/-- Whether the ranges are nonempty, in increasing order and disjoint, and none begins below
`floor`. -/
def increasingFrom (floor : Nat) : List (Nat × Nat) → Bool
  | [] => true
  | (low, high) :: ranges => floor ≤ low && low ≤ high && increasingFrom (high + 1) ranges

def withinRanges (n : Nat) : List (Nat × Nat) → Bool
  | [] => false
  | (low, high) :: ranges => low ≤ n && (n ≤ high || withinRanges n ranges)

theorem withinRanges_cons (n low high : Nat) (ranges : List (Nat × Nat)) :
    withinRanges n ((low, high) :: ranges) = true ↔
      low ≤ n ∧ (n ≤ high ∨ withinRanges n ranges = true) := by
  simp [withinRanges]

theorem not_withinRanges_of_lt {n low high : Nat} {ranges : List (Nat × Nat)} (h : n < low) :
    ¬ withinRanges n ((low, high) :: ranges) = true := by
  rw [withinRanges_cons]
  omega

theorem withinRanges_iff {floor n : Nat} {ranges : List (Nat × Nat)}
    (h : increasingFrom floor ranges = true) :
    withinRanges n ranges = true ↔ ∃ range ∈ ranges, range.1 ≤ n ∧ n ≤ range.2 := by
  suffices hfloor : (withinRanges n ranges = true → floor ≤ n) ∧
      (withinRanges n ranges = true ↔ ∃ range ∈ ranges, range.1 ≤ n ∧ n ≤ range.2) from hfloor.2
  induction ranges generalizing floor with
  | nil => simp [withinRanges]
  | cons range ranges ih =>
    obtain ⟨low, high⟩ := range
    simp only [increasingFrom, Bool.and_eq_true, decide_eq_true_eq] at h
    obtain ⟨hbound, hiff⟩ := ih h.2
    simp only [withinRanges, Bool.and_eq_true, Bool.or_eq_true, decide_eq_true_eq,
      List.mem_cons, exists_eq_or_imp]
    refine ⟨fun hn ↦ by omega, fun hn ↦ hn.2.imp (⟨hn.1, ·⟩) hiff.1, ?_⟩
    rintro (hhere | hlater)
    · exact ⟨hhere.1, .inl hhere.2⟩
    · have hn := hbound (hiff.2 hlater)
      exact ⟨by omega, .inr (hiff.2 hlater)⟩

/-- A class of characters, as closed ranges of code points. -/
structure CharClass where
  ranges : List (Nat × Nat)
  ordered : increasingFrom 0 ranges = true

def CharClass.contains (k : CharClass) (c : Char) : Bool :=
  withinRanges c.toNat k.ranges

theorem CharClass.contains_iff {k : CharClass} {c : Char} :
    k.contains c = true ↔ ∃ range ∈ k.ranges, range.1 ≤ c.toNat ∧ c.toNat ≤ range.2 :=
  withinRanges_iff k.ordered

end StraightLine.Text
