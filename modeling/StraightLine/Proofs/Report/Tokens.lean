import StraightLine.Proofs.Report.Course
import StraightLine.Proofs.Text.Form

/-!
# Reports of tokens read back

The line that shows a token is a written form of its kind and text and of its line and column: a name in
capitals up to a comma, quoted text, and two numerals. Nothing else is in it, so that two tokens are shown
alike exactly if they agree up to their offsets, and a report of tokens can be read back line by line.
-/

namespace StraightLine

open Text

namespace Token

/-! ## The line of a token -/

def Kind.ofName? (name : List Char) : Option Kind :=
  (grammar.map Rule.kind).find? (·.name.toList = name)

theorem Kind.ofName?_name (kind : Kind) : ofName? kind.name.toList = some kind := by
  cases kind <;> decide

def Kind.form : Form Kind :=
  .endedBy ',' (·.name.toList) ofName? (fun kind ↦ by cases kind <;> decide) ofName?_name

def decimal (stop : Char) (hstop : ∀ digit : ℕ, digit.digitChar ≠ stop) : Form ℕ :=
  .number 10 (by decide) stop hstop

/-- What is shown of a token: its kind and text, its line and its column. -/
def shown (token : Token) : Kind × String × ℕ × ℕ :=
  (token.kind, token.lexeme, token.position.line, token.position.column)

def lineForm : Form (Kind × String × ℕ × ℕ) :=
  (Kind.form.behind "(".toList).pair <|
    (Form.quoted.behind " ".toList).pair <|
      ((decimal ',' fun _ ↦ Nat.digitChar_ne _ (by decide)).behind ") at line ".toList).pair <|
        (decimal '\n' fun _ ↦ Nat.digitChar_ne _ (by decide)).behind " column ".toList

theorem write_decimal (stop : Char) (hstop : ∀ digit : ℕ, digit.digitChar ≠ stop) (number : ℕ) :
    (decimal stop hstop).write number = number.repr.toList ++ [stop] := by
  rw [Nat.repr_eq_ofList_toDigits, String.toList_ofList]
  rfl

theorem write_lineForm (token : Token) :
    lineForm.write token.shown = token.render.toList ++ ['\n'] := by
  have hcomma : ", ".toList = [','] ++ " ".toList := by decide
  have hplace : ") at ".toList ++ "line ".toList = ") at line ".toList := by decide
  have hcolumn : ", column ".toList = [','] ++ " column ".toList := by decide
  have hrender : token.render = "(" ++ token.kind.name ++ ", " ++ Text.quote token.lexeme ++
      ") at " ++ ("line " ++ token.position.line.repr ++ ", column " ++
        token.position.column.repr) := rfl
  calc
    lineForm.write token.shown =
        "(".toList ++ (token.kind.name.toList ++ [',']) ++
          (" ".toList ++ Form.quoted.write token.lexeme ++
            (") at line ".toList ++ (decimal ',' _).write token.position.line ++
              (" column ".toList ++ (decimal '\n' _).write token.position.column))) := rfl
    _ = token.render.toList ++ ['\n'] := by
      rw [hrender, Form.write_quoted, write_decimal, write_decimal]
      simp only [String.toList_append, List.append_assoc, hcomma, hcolumn, ← hplace]

/-! ## Reading -/

def ofText? (text : String) : Option (Kind × String × ℕ × ℕ) :=
  match lineForm.read? (text.toList ++ ['\n']) with
  | some (shown, []) => some shown
  | _ => none

/-- What the lines of a text show of tokens, if each of them shows one. -/
def ofListing? (text : String) : Option (List (Kind × String × ℕ × ℕ)) :=
  (lines text).mapM ofText?

theorem ofText?_render (token : Token) : ofText? token.render = some token.shown := by
  have hread := lineForm.read?_write token.shown []
  rw [List.append_nil, write_lineForm] at hread
  rw [ofText?, hread]

theorem render_eq_iff {token other : Token} :
    token.render = other.render ↔ token.shown = other.shown := by
  constructor
  · intro h
    apply Option.some_inj.1
    rw [← ofText?_render, h, ofText?_render]
  · intro h
    have hline := congrArg lineForm.write h
    rw [write_lineForm, write_lineForm] at hline
    exact String.toList_inj.1 (List.append_cancel_right hline)

theorem toList_listing_render (tokens : List Token) :
    (listing (tokens.map render)).toList = (tokens.map shown).flatMap lineForm.write := by
  rw [toList_listing, List.flatMap_map, List.flatMap_map, List.flatMap_map]
  apply List.flatMap_congr
  intro token _
  exact (write_lineForm token).symm

theorem lines_render (tokens : List Token) :
    lines (listing (tokens.map render)) = tokens.map render := by
  apply lines_listing
  intro entry hentry
  obtain ⟨token, -, rfl⟩ := List.mem_map.1 hentry
  exact token.isLine_render

theorem ofListing?_render (tokens : List Token) :
    ofListing? (listing (tokens.map render)) = some (tokens.map shown) := by
  rw [ofListing?, lines_render]
  exact mapM_map_write fun token _ ↦ ofText?_render token

/-- The text of a token shows its kind and its text, its line and its column, and nothing else. It stays
on one line, so that tokens are read back from the lines of a listing, and from the report of a source
whatever the source is. -/
theorem render_unambiguous :
    (∀ token other : Token, token.render = other.render ↔
      token.kind = other.kind ∧ token.lexeme = other.lexeme ∧
        token.position.line = other.position.line ∧ token.position.column = other.position.column) ∧
    (∀ token : Token, '\n' ∉ token.render.toList) ∧
    (∀ tokens : List Token, lines (listing (tokens.map render)) = tokens.map render) ∧
    (∀ tokens : List Token, ofListing? (listing (tokens.map render)) = some (tokens.map shown)) ∧
    (∀ tokens others : List Token, listing (tokens.map render) = listing (others.map render) ↔
      tokens.map shown = others.map shown) ∧
    ∀ source : String, (report .tokens source).outcome.toOption.bind ofListing? =
      (Lexer.ofSource source).tokenize.toOption.map (List.map shown) := by
  refine ⟨fun token other ↦ ?_, isLine_render, lines_render, ofListing?_render,
    fun tokens others ↦ ?_, fun source ↦ ?_⟩
  · rw [render_eq_iff, shown, shown, Prod.mk.injEq, Prod.mk.injEq, Prod.mk.injEq]
  · constructor
    · intro h
      apply Option.some_inj.1
      rw [← ofListing?_render, h, ofListing?_render]
    · intro h
      rw [← String.toList_inj, toList_listing_render, toList_listing_render, h]
  · cases htokens : (Lexer.ofSource source).tokenize with
    | error e =>
      rw [outcome_report, htokens]
      rfl
    | ok tokens =>
      rw [outcome_report_tokens htokens]
      exact ofListing?_render tokens

end Token

end StraightLine
