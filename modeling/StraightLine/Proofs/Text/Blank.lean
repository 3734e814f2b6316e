import StraightLine.Text.WhiteSpace
import StraightLine.Text.WordCharacter

/-!
# Runs of characters and blank text

A run of characters of one class stops at a text that does not go on with the class; taking and
dropping the characters of a class cut a text exactly there. Text is blank when it is a run of white
space. No white space continues a word: the two tables have no character in common.
-/

namespace StraightLine.Text

/-- Whether a run of the characters with a property stops in front of a text. -/
def Stops (p : Char → Bool) (text : List Char) : Prop :=
  ∀ c ∈ text.head?, p c = false

section Stops

variable {p q : Char → Bool} {c : Char} {run text other : List Char}

@[simp] theorem stops_nil : Stops p [] := by
  simp [Stops]

@[simp] theorem stops_cons : Stops p (c :: text) ↔ p c = false := by
  simp [Stops]

theorem stops_dropWhile (p : Char → Bool) (text : List Char) : Stops p (text.dropWhile p) := by
  intro c hc
  have hstop := List.head?_dropWhile_not p text
  rw [Option.mem_def.1 hc] at hstop
  simpa using hstop

theorem Stops.mono (h : Stops p text) (hpq : ∀ c, q c = true → p c = true) : Stops q text := by
  intro c hc
  cases hq : q c with
  | false => rfl
  | true => exact (hpq c hq).symm.trans (h c hc)

theorem stops_append (htext : Stops p text) (hother : Stops p other) : Stops p (text ++ other) := by
  cases text with
  | nil => exact hother
  | cons c text => exact htext

theorem stops_of_append (h : Stops p (text ++ other)) : Stops p text := by
  cases text with
  | nil => exact stops_nil
  | cons c text => exact h

theorem takeWhile_append_of_stops (hrun : ∀ c ∈ run, p c = true) (htext : Stops p text) :
    (run ++ text).takeWhile p = run := by
  rw [List.takeWhile_append_of_pos hrun]
  cases text with
  | nil => simp
  | cons c text => simp [stops_cons.1 htext]

theorem dropWhile_append_of_stops (hrun : ∀ c ∈ run, p c = true) (htext : Stops p text) :
    (run ++ text).dropWhile p = text := by
  rw [List.dropWhile_append_of_pos hrun]
  cases text with
  | nil => simp
  | cons c text => simp [stops_cons.1 htext]

theorem of_mem_takeWhile (h : c ∈ text.takeWhile p) : p c = true :=
  List.all_eq_true.1 List.all_takeWhile c h

end Stops

def Blank (text : List Char) : Prop :=
  ∀ c ∈ text, isWhiteSpace c = true

instance (text : List Char) : Decidable (Blank text) :=
  List.decidableBAll _ text

@[simp] theorem blank_nil : Blank [] := by
  simp [Blank]

theorem blank_takeWhile (text : List Char) : Blank (text.takeWhile isWhiteSpace) :=
  fun _ hc ↦ of_mem_takeWhile hc

/-- Trimming cuts the white space off both ends of a text. -/
theorem exists_trim_append {text : String} {gap rest : List Char} (htext : text.toList = gap ++ rest)
    (hgap : Blank gap) (hrest : Stops isWhiteSpace rest) :
    ∃ tail, Blank tail ∧ rest = (trim text).toList ++ tail := by
  have hopened : text.toList.dropWhile isWhiteSpace = rest := by
    rw [htext, dropWhile_append_of_stops hgap hrest]
  refine ⟨(rest.reverse.takeWhile isWhiteSpace).reverse, ?_, ?_⟩
  · intro c hc
    exact blank_takeWhile rest.reverse c (List.mem_reverse.1 hc)
  · rw [trim, hopened, String.toList_ofList, ← List.reverse_append, List.takeWhile_append_dropWhile,
      List.reverse_reverse]

def whiteSpaceCodePoints : List Nat :=
  whiteSpace.ranges.flatMap fun (low, high) ↦ List.range' low (high + 1 - low)

theorem toNat_mem_whiteSpaceCodePoints {c : Char} (h : isWhiteSpace c = true) :
    c.toNat ∈ whiteSpaceCodePoints := by
  obtain ⟨range, hrange, hbounds⟩ := CharClass.contains_iff.1 h
  refine List.mem_flatMap.2 ⟨range, hrange, ?_⟩
  rw [List.mem_range'_1]
  omega

/-- White space ends every word. -/
theorem isWordCharacter_eq_false_of_isWhiteSpace {c : Char} (h : isWhiteSpace c = true) :
    isWordCharacter c = false := by
  have hdisjoint : ∀ n ∈ whiteSpaceCodePoints, withinRanges n wordCharacters.ranges = false := by
    decide +kernel
  exact hdisjoint c.toNat (toNat_mem_whiteSpaceCodePoints h)

end StraightLine.Text
