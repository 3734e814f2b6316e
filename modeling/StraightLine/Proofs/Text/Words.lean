import StraightLine.Proofs.Text.Blank

/-!
# Trimmed text and words

What is left of a text without the white space at its ends, and what stands between its white space, is
told here by how the text is put together: `TrimsTo` and `HasWords`. Each text has exactly one trimmed
text and one list of words, and these are the ones that `trim` and `words` give.
-/

namespace StraightLine.Text

/-! ## Trimmed text -/

/-- Whether a text is what is left of a line when the white space at both ends is cut off. -/
structure TrimsTo (line trimmed : String) : Prop where
  exists_gaps : ∃ gap tail, Blank gap ∧ Blank tail ∧ line.toList = gap ++ trimmed.toList ++ tail
  first : ∀ c ∈ trimmed.toList.head?, isWhiteSpace c = false
  last : ∀ c ∈ trimmed.toList.getLast?, isWhiteSpace c = false

section Trim

variable {line trimmed : String}

theorem dropWhile_of_blank {gap : List Char} (h : Blank gap) : gap.dropWhile isWhiteSpace = [] := by
  have hdrop := dropWhile_append_of_stops h stops_nil
  rwa [List.append_nil] at hdrop

theorem trimsTo_trim (line : String) : TrimsTo line (trim line) := by
  have hsplit : line.toList = line.toList.takeWhile isWhiteSpace ++ line.toList.dropWhile isWhiteSpace :=
    List.takeWhile_append_dropWhile.symm
  have hopened := stops_dropWhile isWhiteSpace line.toList
  obtain ⟨tail, htail, hrest⟩ := exists_trim_append hsplit (blank_takeWhile line.toList) hopened
  constructor
  · refine ⟨line.toList.takeWhile isWhiteSpace, tail, blank_takeWhile _, htail, ?_⟩
    rw [List.append_assoc, ← hrest]
    exact hsplit
  · rw [hrest] at hopened
    exact stops_of_append hopened
  · rw [← List.head?_reverse, trim, String.toList_ofList, List.reverse_reverse]
    exact stops_dropWhile isWhiteSpace _

theorem TrimsTo.eq_trim (h : TrimsTo line trimmed) : trimmed = trim line := by
  obtain ⟨⟨gap, tail, hgap, htail, hline⟩, hfirst, hlast⟩ := h
  by_cases hempty : trimmed = ""
  · subst hempty
    have hblank : Blank line.toList := by
      intro c hc
      rw [hline, String.toList_empty, List.append_nil] at hc
      exact (List.mem_append.1 hc).elim (hgap c) (htail c)
    rw [trim, dropWhile_of_blank hblank]
    rfl
  · have hne : trimmed.toList ≠ [] := mt String.toList_eq_nil_iff.1 hempty
    have hopened : line.toList.dropWhile isWhiteSpace = trimmed.toList ++ tail := by
      rw [hline, List.append_assoc]
      apply dropWhile_append_of_stops hgap
      obtain ⟨c, others, hcons⟩ := List.exists_cons_of_ne_nil hne
      rw [hcons] at hfirst ⊢
      exact hfirst
    have hclosed : (trimmed.toList ++ tail).reverse.dropWhile isWhiteSpace = trimmed.toList.reverse := by
      rw [List.reverse_append]
      apply dropWhile_append_of_stops
      · exact fun c hc ↦ htail c (List.mem_reverse.1 hc)
      · rwa [Stops, List.head?_reverse]
    rw [trim, hopened, hclosed, List.reverse_reverse, String.ofList_toList]

/-- Each line is trimmed in one way. -/
theorem trimsTo_iff : TrimsTo line trimmed ↔ trimmed = trim line := by
  refine ⟨TrimsTo.eq_trim, ?_⟩
  rintro rfl
  exact trimsTo_trim line

end Trim

/-! ## Words -/

/-- Whether some words are those of a text: the longest pieces of it that hold no white space. -/
inductive HasWords : List Char → List String → Prop
  | nil {gap : List Char} (hgap : Blank gap) : HasWords gap []
  | cons {gap rest : List Char} {word : String} {words : List String} (hgap : Blank gap)
      (hne : word ≠ "") (hword : ∀ c ∈ word.toList, isWhiteSpace c = false)
      (hend : ∀ c ∈ rest.head?, isWhiteSpace c = true) (hrest : HasWords rest words) :
      HasWords (gap ++ word.toList ++ rest) (word :: words)

def pieces (text : List Char) : List String :=
  ((text.splitOnP isWhiteSpace).filter fun piece ↦ !piece.isEmpty).map .ofList

section Words

variable {text gap rest : List Char} {words : List String}

theorem pieces_gap_append (hgap : Blank gap) (rest : List Char) : pieces (gap ++ rest) = pieces rest := by
  induction gap with
  | nil => rfl
  | cons c gap ih =>
    obtain ⟨hc, hgap⟩ := List.forall_mem_cons.1 hgap
    rw [← ih hgap, List.cons_append, pieces, List.splitOnP_cons_eq_if_modifyHead, if_pos hc]
    rfl

theorem pieces_of_blank (hgap : Blank gap) : pieces gap = [] := by
  have hpieces := pieces_gap_append hgap []
  rwa [List.append_nil] at hpieces

theorem pieces_word_append {word : String} (hne : word ≠ "")
    (hword : ∀ c ∈ word.toList, isWhiteSpace c = false)
    (hend : ∀ c ∈ rest.head?, isWhiteSpace c = true) :
    pieces (word.toList ++ rest) = word :: pieces rest := by
  have hkeep : (!word.toList.isEmpty) = true := by
    rw [Bool.not_eq_true', List.isEmpty_eq_false_iff]
    exact mt String.toList_eq_nil_iff.1 hne
  cases rest with
  | nil =>
    rw [List.append_nil, pieces, List.splitOnP_eq_singleton hword, List.filter_cons, if_pos hkeep,
      List.map_cons, String.ofList_toList]
    rfl
  | cons c rest =>
    have hc : isWhiteSpace c = true := hend c rfl
    have hrest := pieces_gap_append (List.forall_mem_singleton.2 hc) rest
    rw [List.singleton_append] at hrest
    rw [hrest, pieces, List.splitOnP_append_cons_of_forall_mem hword c hc,
      List.filter_cons, if_pos hkeep, List.map_cons, String.ofList_toList]
    rfl

theorem HasWords.eq_pieces (h : HasWords text words) : words = pieces text := by
  induction h with
  | nil hgap => exact (pieces_of_blank hgap).symm
  | cons hgap hne hword hend _ ih =>
    rw [List.append_assoc, pieces_gap_append hgap, pieces_word_append hne hword hend, ← ih]

/-- A visible character begins a word. -/
theorem exists_word_append {c : Char} (hc : isWhiteSpace c = false) (rest : List Char) :
    ∃ (word : String) (later : List Char), c :: rest = word.toList ++ later ∧ word ≠ "" ∧
      (∀ d ∈ word.toList, isWhiteSpace d = false) ∧ (∀ d ∈ later.head?, isWhiteSpace d = true) ∧
      later.length ≤ rest.length := by
  let visible (d : Char) := !isWhiteSpace d
  refine ⟨.ofList (c :: rest.takeWhile visible), rest.dropWhile visible, ?_, ?_, ?_, ?_, ?_⟩
  · rw [String.toList_ofList, List.cons_append, List.takeWhile_append_dropWhile]
  · simp [← String.toList_inj]
  · rw [String.toList_ofList]
    refine List.forall_mem_cons.2 ⟨hc, fun d hd ↦ ?_⟩
    simpa [visible] using of_mem_takeWhile hd
  · intro d hd
    simpa [visible] using stops_dropWhile visible rest d hd
  · exact (List.dropWhile_sublist visible).length_le

theorem exists_hasWords (text : List Char) : ∃ words, HasWords text words := by
  induction hlength : text.length using Nat.strongRecOn generalizing text with
  | ind length ih =>
    subst hlength
    have hgap := blank_takeWhile text
    have hvisible := stops_dropWhile isWhiteSpace text
    have hsplit : text.takeWhile isWhiteSpace ++ text.dropWhile isWhiteSpace = text :=
      List.takeWhile_append_dropWhile
    cases hrest : text.dropWhile isWhiteSpace with
    | nil =>
      rw [hrest, List.append_nil] at hsplit
      exact ⟨[], hsplit ▸ .nil hgap⟩
    | cons c rest =>
      rw [hrest] at hsplit hvisible
      obtain ⟨word, later, hword, hne, hall, hend, hle⟩ := exists_word_append (stops_cons.1 hvisible) rest
      have hshorter : later.length < text.length := by
        rw [← hsplit, List.length_append, List.length_cons]
        omega
      obtain ⟨words, hwords⟩ := ih later.length hshorter later rfl
      rw [hword, ← List.append_assoc] at hsplit
      exact ⟨word :: words, hsplit ▸ .cons hgap hne hall hend hwords⟩

/-- The words of a text are settled by the text. -/
theorem hasWords_iff {text : String} {words : List String} :
    HasWords text.toList words ↔ Text.words text = words := by
  constructor
  · exact fun h ↦ h.eq_pieces.symm
  · rintro rfl
    obtain ⟨words, hwords⟩ := exists_hasWords text.toList
    have heq : words = Text.words text := hwords.eq_pieces
    exact heq ▸ hwords

end Words

end StraightLine.Text
