import StraightLine.Proofs.Token.Partition

/-!
# Tokens in the order of a source

The tokens of a source stand in it one behind the other: no token begins before the one in front of it
has ended (`scan_in_order`). Each of them cuts the source in two places, and behind the last one there is
only white space (`exists_split_of_tokenize`).
-/

namespace StraightLine.Token

open Text

/-- What a cursor scans stands behind it, thing by thing in order. -/
theorem Cursor.scan_in_order (cursor : Cursor) :
    (∀ token ∈ (cursor.scan grammar).items, cursor.position ≤ token.position) ∧
    (cursor.scan grammar).items.Pairwise (fun token later ↦ token.stop ≤ later.position) ∧
    ∀ e, (cursor.scan grammar).failure? = some e →
      cursor.position ≤ e.position ∧
        ∀ token ∈ (cursor.scan grammar).items, token.stop ≤ e.position := by
  fun_induction cursor.scan grammar with
  | case1 cursor hnext => simp
  | case2 cursor e hnext =>
    cases Cursor.step_iff.2 hnext with
    | @unknown place gap rest c hgap =>
      refine ⟨by simp, by simp, ?_⟩
      intro e he
      cases he
      exact ⟨Position.le_advanceOver place gap, by simp⟩
  | case3 cursor token after hnext hshorter ih =>
    cases Cursor.step_iff.2 hnext with
    | @token place gap rest token hgap htoken hfits =>
      obtain ⟨hlater, hpairwise, hfailure⟩ := ih
      have hplace : place ≤ token.position := by
        rw [htoken]
        exact Position.le_advanceOver place gap
      have hstop : place ≤ token.stop := by
        refine hplace.trans ?_
        rw [hfits.stop_eq]
        exact Position.le_advanceOver _ _
      refine ⟨?_, ?_, ?_⟩
      · exact List.forall_mem_cons.2 ⟨hplace, fun other hother ↦ hstop.trans (hlater other hother)⟩
      · exact List.pairwise_cons.2 ⟨hlater, hpairwise⟩
      · intro e he
        obtain ⟨hbehind, hitems⟩ := hfailure e he
        exact ⟨hstop.trans hbehind, List.forall_mem_cons.2 ⟨hbehind, hitems⟩⟩

namespace Layout

def behind (layout : Layout) (index : ℕ) : List Char :=
  (layout.pieces.drop (index + 1)).flatMap Piece.text ++ layout.lastGap

/-- A lexeme cuts the text of a layout in two places. -/
theorem text_eq_append {layout : Layout} {index : ℕ} {lexeme : List Char}
    (h : layout.lexemes[index]? = some lexeme) :
    layout.text = layout.before index ++ lexeme ++ layout.behind index := by
  rw [lexemes, List.getElem?_map] at h
  obtain ⟨piece, hpiece, rfl⟩ := Option.map_eq_some_iff.1 h
  obtain ⟨hindex, hget⟩ := List.getElem?_eq_some_iff.1 hpiece
  have hpieces := List.take_append_drop index layout.pieces
  rw [List.drop_eq_getElem_cons hindex, hget] at hpieces
  have htext : layout.text = (layout.pieces.take index ++
      piece :: layout.pieces.drop (index + 1)).flatMap Piece.text ++ layout.lastGap := by
    rw [hpieces, text]
  rw [htext, before, behind, hpiece]
  simp [Piece.text]

/-- Behind the last lexeme there is only white space. -/
theorem blank_behind {layout : Layout} {index : ℕ} (h : layout.lexemes.length = index + 1) :
    Blank (layout.behind index) := by
  have hlength : layout.pieces.length = index + 1 := List.length_map Piece.lexeme ▸ h
  rw [behind, ← hlength, List.drop_length]
  exact layout.blank

end Layout

theorem StandsBehind.stop_eq {token : Token} {text : List Char} (h : StandsBehind token text) :
    token.stop = .ofText (text ++ token.lexeme.toList) := by
  rw [stop_eq_of_spells h.spells, h.place, Position.advanceOver_ofText]

/-- A token ends behind the place where it begins. -/
theorem StandsBehind.offset_lt {token : Token} {text : List Char} (h : StandsBehind token text) :
    token.position.offset < token.stop.offset := by
  have hsize : token.lexeme.utf8ByteSize ≠ 0 := by
    rw [Ne, String.utf8ByteSize_eq_zero_iff]
    exact h.nonempty
  exact Nat.lt_add_of_pos_right (Nat.pos_of_ne_zero hsize)

/-- The last character of a token is no white space. -/
theorem StandsBehind.exists_getLast? {token : Token} {text : List Char} (h : StandsBehind token text) :
    ∃ c ∈ (text ++ token.lexeme.toList).getLast?, isWhiteSpace c = false := by
  have hne : token.lexeme.toList ≠ [] := fun hnil ↦ h.nonempty (String.toList_eq_nil_iff.1 hnil)
  refine ⟨token.lexeme.toList.getLast hne, ?_, ?_⟩
  · rw [List.getLast?_append_of_ne_nil _ hne]
    exact List.getLast?_eq_some_getLast hne
  · exact Kind.isWhiteSpace_eq_false_of_mem h.spells (List.getLast_mem hne)

/-- A token of a source stands between two parts of it, the last one in front of white space. -/
theorem exists_split_of_tokenize {source : String} {tokens : List Token}
    (h : (Lexer.ofSource source).tokenize = .ok tokens) {index : ℕ} (hindex : index < tokens.length) :
    ∃ before behind, source.toList = before ++ tokens[index].lexeme.toList ++ behind ∧
      StandsBehind tokens[index] before ∧ (tokens.length = index + 1 → Blank behind) := by
  obtain ⟨hfailure, rfl⟩ := Attempt.toExcept_eq_ok_iff.1 h
  obtain ⟨layout, tail, htext, hlexemes, htokens, hnone, -⟩ :=
    exists_layout_of_scan (.start source) [] rfl
  have hlexeme : layout.lexemes[index]? =
      some (Lexer.ofSource source).remaining.items[index].lexeme.toList := by
    rw [← hlexemes, List.getElem?_map]
    exact congrArg _ (List.getElem?_eq_getElem hindex)
  refine ⟨layout.before index, layout.behind index, ?_, htokens index hindex, ?_⟩
  · calc
      source.toList = layout.text ++ tail := htext
      _ = layout.text := by rw [hnone hfailure, List.append_nil]
      _ = _ := Layout.text_eq_append hlexeme
  · intro hlength
    apply Layout.blank_behind
    rw [← hlexemes, List.length_map]
    exact hlength

end StraightLine.Token
