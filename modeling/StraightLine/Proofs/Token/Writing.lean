import StraightLine.Proofs.Text.Lines
import StraightLine.Proofs.Token.Joint
import StraightLine.Proofs.Token.Reserved

/-!
# Texts written token by token

A text that puts tokens one behind the other, with white space where they need it, is read as these tokens:
`Written.isReadAs`. Whether a token needs white space behind it is a matter of the next character
(`Fits.of_word`, `Fits.of_mark`). As line feeds are white space, the tokens of a listing are those of its
entries: `isReadAs_listing`.
-/

namespace StraightLine.Token

open Text

/-- Whether a source is read as tokens of the given kinds and texts. -/
def IsReadAs (source : String) (spellings : List (Kind × String)) : Prop :=
  ∃ tokens, (Lexer.ofSource source).tokenize = .ok tokens ∧ tokens.map spelling = spellings

/-- The texts that consist of tokens and white space in front of them, where each token fits in front of
all that follows it. -/
inductive Written : List Char → List (Kind × String) → Prop
  | nil : Written [] []
  | cons {gap rest : List Char} {kind : Kind} {lexeme : String} {others : List (Kind × String)}
      (hgap : Blank gap) (hfits : Fits kind lexeme.toList rest) (hrest : Written rest others) :
      Written (gap ++ (lexeme.toList ++ rest)) ((kind, lexeme) :: others)

theorem Written.scan {text : List Char} {spellings : List (Kind × String)} (h : Written text spellings)
    (place : Position) :
    ((Cursor.mk place text).scan grammar).failure? = none ∧
      ((Cursor.mk place text).scan grammar).items.map spelling = spellings := by
  induction h generalizing place with
  | nil =>
    rw [Cursor.scan_eq_finished (Cursor.next?_of_blank place blank_nil)]
    exact ⟨rfl, rfl⟩
  | @cons gap rest kind lexeme others hgap hfits hrest ih =>
    let token : Token := ⟨kind, lexeme, place.advanceOver gap⟩
    have hstep := Cursor.step_iff.1 (@Step.token place gap rest token hgap rfl hfits)
    obtain ⟨hfailure, hitems⟩ := ih token.stop
    rw [Cursor.scan_eq_cons hstep]
    exact ⟨hfailure, congrArg ((kind, lexeme) :: ·) hitems⟩

theorem Written.isReadAs {source : String} {spellings : List (Kind × String)}
    (h : Written source.toList spellings) : IsReadAs source spellings := by
  obtain ⟨hfailure, hitems⟩ := h.scan .start
  exact ⟨_, Attempt.toExcept_eq_ok_iff.2 ⟨hfailure, rfl⟩, hitems⟩

/-! ## Tokens that are written -/

/-- A name ends where no name character follows. -/
theorem Fits.of_name {lexeme : String} {rest : List Char} (h : Pattern.name.Spells lexeme.toList)
    (hunreserved : lexeme ∉ reservedWords) (hrest : Stops isNameCharacter rest) :
    Fits .identifier lexeme.toList rest where
  spells := h
  ends := hrest
  unreserved _ hreserved := hunreserved (spells_keyword_iff.1 hreserved.1)

/-- A number ends where neither a digit nor a point follows. -/
theorem Fits.of_numeral {lexeme rest : List Char} {c : Char} (h : Pattern.numeral.Spells lexeme)
    (hdigit : c.isDigit = false) (hpoint : c ≠ '.') : Fits .number lexeme (c :: rest) where
  spells := h
  ends := by
    refine ⟨stops_cons.2 hdigit, .inr (Pattern.fraction_eq_nil_iff.2 fun later hcons ↦ ?_)⟩
    exact absurd (List.cons.inj hcons).1 hpoint
  unreserved hkind := nomatch hkind

/-- Numbers and names end where neither a name character nor a point follows. -/
theorem Fits.of_word {kind : Kind} {lexeme : String} (hkind : kind = .number ∨ kind = .identifier)
    (h : kind.pattern.Spells lexeme.toList) (hunreserved : lexeme ∉ reservedWords) {c : Char}
    (hname : isNameCharacter c = false) (hpoint : c ≠ '.') (rest : List Char) :
    Fits kind lexeme.toList (c :: rest) := by
  rcases hkind with rfl | rfl
  · exact .of_numeral h (isNameCharacter_eq_false_iff.1 hname).2 hpoint
  · exact .of_name h hunreserved (stops_cons.2 hname)

/-- A mark ends wherever it stands. -/
theorem Fits.of_mark {kind : Kind} {c : Char} (hkind : kind.pattern = .mark [c]) (rest : List Char) :
    Fits kind [c] rest where
  spells := by
    rw [hkind]
    exact ⟨c, List.mem_singleton_self c, rfl⟩
  ends := by
    rw [hkind]
    trivial
  unreserved hname := by
    rw [hname] at hkind
    cases hkind

theorem Written.mark (kind : Kind) (lexeme : String) {c : Char} {gap rest : List Char}
    {others : List (Kind × String)} (hgap : Blank gap) (hkind : kind.pattern = .mark [c])
    (hlexeme : lexeme.toList = [c]) (hrest : Written rest others) :
    Written (gap ++ c :: rest) ((kind, lexeme) :: others) := by
  have hfits : Fits kind lexeme.toList rest := by
    rw [hlexeme]
    exact .of_mark hkind rest
  have hwritten := Written.cons hgap hfits hrest
  rwa [hlexeme] at hwritten

/-! ## Listings -/

/-- The tokens of a listing are those of the first entry and then those of the others, moved behind it. -/
theorem tokenize_listing_cons (entry : String) (entries : List String) :
    let f := Position.behind (entry ++ "\n").toList
    (Lexer.ofSource (listing (entry :: entries))).tokenize =
      (Lexer.ofSource entry).tokenize.bind fun tokens ↦
        (((Lexer.ofSource (listing entries)).tokenize.map (List.map (Token.relocate f))).mapError
          (UnknownCharacter.relocate f)).map (tokens ++ ·) := by
  rw [listing_cons]
  exact Lexer.tokenize_append_gap entry (listing entries) (by decide) (by decide)

/-- A listing is read as its entries are, one after the other. -/
theorem isReadAs_listing {α : Type} {items : List α} {text : α → String}
    {spellings : α → List (Kind × String)} (h : ∀ item ∈ items, IsReadAs (text item) (spellings item)) :
    IsReadAs (listing (items.map text)) (items.flatMap spellings) := by
  induction items with
  | nil => exact Written.isReadAs .nil
  | cons item items ih =>
    obtain ⟨hitem, hitems⟩ := List.forall_mem_cons.1 h
    obtain ⟨tokens, htokens, hspelling⟩ := hitem
    obtain ⟨others, hothers, hlater⟩ := ih hitems
    let f := Position.behind (text item ++ "\n").toList
    refine ⟨tokens ++ others.map (Token.relocate f), ?_, ?_⟩
    · rw [List.map_cons, tokenize_listing_cons, htokens, hothers]
      rfl
    · have hmoved : (others.map (Token.relocate f)).map spelling = others.map spelling := by
        rw [List.map_map]
        rfl
      rw [List.map_append, hspelling, hmoved, hlater, List.flatMap_cons]

end StraightLine.Token
