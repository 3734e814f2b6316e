import StraightLine.Proofs.Report.Outcome
import StraightLine.Proofs.Token.Spacing

/-!
# White space and reports

Changing the white space between tokens moves them and does nothing else, so that every report but
that of the tokens themselves remains as it was. A source that is refused is refused for the same
reason, up to the places that the error names.
-/

namespace StraightLine

open Token

/-- The stage at which a source is refused. -/
inductive RunError.Variant
  | lexical
  | syntactic
  | semantic
deriving DecidableEq

def RunError.variant : RunError → RunError.Variant
  | lexical _ => .lexical
  | syntactic _ => .syntactic
  | semantic _ => .semantic

@[simp] theorem RunError.variant_relocate (f : Position → Position) (g : Nat → Nat)
    (stop : Position) (e : RunError) : (e.relocate f g stop).variant = e.variant := by
  cases e <;> rfl

def toStart : Position → Position := fun _ ↦ .start

theorem map_relocate_toStart {tokens others : List Token}
    (h : tokens.map spelling = others.map spelling) :
    tokens.map (Token.relocate toStart) = others.map (Token.relocate toStart) := by
  have hrebuild (tokens : List Token) : tokens.map (Token.relocate toStart) =
      (tokens.map spelling).map fun (kind, lexeme) ↦ ⟨kind, lexeme, .start⟩ := by
    rw [List.map_map]
    rfl
  rw [hrebuild, hrebuild, h]

/-- What the later stages make of a token does not depend on its place. -/
theorem variant_outcomeOfReader (stage : Stage) (reader : Reader) :
    (outcomeOfReader stage reader).mapError RunError.variant =
      (outcomeOfReader stage (reader.relocate toStart .start)).mapError RunError.variant := by
  have hline : ∀ place, (toStart place).line = Function.const Nat 1 place.line := fun _ ↦ rfl
  rw [outcomeOfReader_relocate hline]
  cases outcomeOfReader stage reader with
  | ok text => rfl
  | error e => exact congrArg Except.error (RunError.variant_relocate _ _ _ e).symm

theorem variant_outcomeOfTokens {stage : Stage} {tokens others : List Token}
    (hstage : stage ≠ .tokens) (h : tokens.map spelling = others.map spelling) :
    (outcomeOfTokens stage tokens).mapError RunError.variant =
      (outcomeOfTokens stage others).mapError RunError.variant := by
  have hreader : (Reader.ofTokens tokens).relocate toStart .start =
      (Reader.ofTokens others).relocate toStart .start :=
    congrArg (Reader.mk · .start) (map_relocate_toStart h)
  unfold outcomeOfTokens
  rw [if_neg hstage, if_neg hstage]
  calc
    (outcomeOfReader stage (.ofTokens tokens)).mapError RunError.variant =
        (outcomeOfReader stage ((Reader.ofTokens tokens).relocate toStart .start)).mapError
          RunError.variant := variant_outcomeOfReader stage _
    _ = (outcomeOfReader stage ((Reader.ofTokens others).relocate toStart .start)).mapError
          RunError.variant := by rw [hreader]
    _ = (outcomeOfReader stage (.ofTokens others)).mapError RunError.variant :=
        (variant_outcomeOfReader stage _).symm

theorem tokenize_respaced {source : String} {tokens : List Token} {layout respaced : Layout}
    (hsource : source.toList = layout.text)
    (htokens : (Lexer.ofSource source).tokenize = .ok tokens)
    (hlexemes : tokens.map (·.lexeme.toList) = layout.lexemes)
    (hrespaced : respaced.Respaces layout) :
    ∃ moved, (Lexer.ofSource (.ofList respaced.text)).tokenize = .ok moved ∧
      moved.map spelling = tokens.map spelling := by
  obtain ⟨hfailure, hitems⟩ := Attempt.toExcept_eq_ok_iff.1 htokens
  have hscan : (Cursor.start source).scan grammar = (Lexer.ofSource source).remaining := rfl
  rw [← hscan] at hfailure hitems
  rw [← hitems] at hlexemes
  obtain ⟨hmoved, hspelling⟩ :=
    scan_of_respaces .start hsource hfailure hlexemes hrespaced
  rw [hitems] at hspelling
  refine ⟨_, Attempt.toExcept_eq_ok_iff.2 ⟨?_, rfl⟩, ?_⟩
  · simpa [Lexer.remaining, Lexer.ofSource, Cursor.start] using hmoved
  · simpa [Lexer.remaining, Lexer.ofSource, Cursor.start] using hspelling

/-- A source has the same tokens and comes to the same reports, or to the same kind of error, when
the white space in it is changed without joining tokens that were apart. -/
theorem spacing_has_no_meaning {source : String} {tokens : List Token} {layout respaced : Layout}
    (hsource : source.toList = layout.text)
    (htokens : (Lexer.ofSource source).tokenize = .ok tokens)
    (hlexemes : tokens.map (·.lexeme.toList) = layout.lexemes)
    (hrespaced : respaced.Respaces layout) :
    (∃ moved, (Lexer.ofSource (.ofList respaced.text)).tokenize = .ok moved ∧
      moved.map spelling = tokens.map spelling) ∧
    ∀ stage, stage ≠ .tokens →
      (report stage (.ofList respaced.text)).outcome.mapError RunError.variant =
        (report stage source).outcome.mapError RunError.variant := by
  obtain ⟨moved, hmoved, hspelling⟩ := tokenize_respaced hsource htokens hlexemes hrespaced
  refine ⟨⟨moved, hmoved, hspelling⟩, ?_⟩
  intro stage hstage
  rw [outcome_report, outcome_report, hmoved, htokens]
  exact variant_outcomeOfTokens hstage hspelling

/-- An assignment with a single space in it. -/
def closeLayout : Layout where
  pieces := [⟨[], ['y'], by decide⟩, ⟨[' '], ['='], by decide⟩, ⟨[], ['1', '.', '5'], by decide⟩,
    ⟨[], [';'], by decide⟩]
  lastGap := []
  blank := by decide

/-- The same assignment with a tabulator, an em space and line feeds in it. -/
def looseLayout : Layout where
  pieces := [⟨['\t'], ['y'], by decide⟩, ⟨['\u2003'], ['='], by decide⟩,
    ⟨['\n'], ['1', '.', '5'], by decide⟩, ⟨[' '], [';'], by decide⟩]
  lastGap := ['\n']
  blank := by decide

theorem spacing_has_no_meaning_of_assignment :
    (∃ moved, (Lexer.ofSource "\ty\u2003=\n1.5 ;\n").tokenize = .ok moved ∧
      moved.map spelling =
        [(.identifier, "y"), (.assign, "="), (.number, "1.5"), (.semicolon, ";")]) ∧
    ∀ stage, stage ≠ .tokens →
      (report stage "\ty\u2003=\n1.5 ;\n").outcome.mapError RunError.variant =
        (report stage "y =1.5;").outcome.mapError RunError.variant := by
  let tokens : List Token := [⟨.identifier, "y", ⟨0, 1, 1⟩⟩, ⟨.assign, "=", ⟨2, 1, 3⟩⟩,
    ⟨.number, "1.5", ⟨3, 1, 4⟩⟩, ⟨.semicolon, ";", ⟨6, 1, 7⟩⟩]
  have htokens : (Lexer.ofSource "y =1.5;").tokenize = .ok tokens := by decide +kernel
  have hrespaced : looseLayout.Respaces closeLayout := by decide
  have htext : String.ofList looseLayout.text = "\ty\u2003=\n1.5 ;\n" := by decide
  rw [← htext]
  exact @spacing_has_no_meaning "y =1.5;" tokens closeLayout looseLayout rfl htokens rfl hrespaced

end StraightLine
