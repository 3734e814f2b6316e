import StraightLine.Token.Basic
import StraightLine.Text.WordCharacter

/-!
# The lexical grammar

The grammar is a list of rules, each giving a kind of token and a pattern for its text. Where a text
is to be read, the rules are tried in order and the first whose pattern matches there decides. Names
and numerals are made of ASCII characters, but a reserved word ends only where no word character of
any script follows it.

`Pattern.Spells` describes the texts of a pattern by themselves, and `Pattern.lexeme?` finds such a
text at the front of a longer one.
-/

namespace StraightLine.Token

def reservedWords : List String :=
  ["if", "else", "while", "for", "int", "float", "return", "print", "main"]

def isNameStart (c : Char) : Bool :=
  c.isAlpha || c = '_'

def isNameCharacter (c : Char) : Bool :=
  c.isAlphanum || c = '_'

/-- What the text of a token looks like. -/
inductive Pattern
  /-- One of the given words, as a whole word. -/
  | word (words : List String)
  /-- A letter or low line, then letters, digits and low lines. -/
  | name
  /-- Digits, perhaps with a point and more digits after them. -/
  | numeral
  /-- A single character, one of those given. -/
  | mark (characters : List Char)
deriving DecidableEq

namespace Pattern

/-- Whether no word character stands at the front of a text. -/
def endsWord : List Char → Bool
  | [] => true
  | c :: _ => !Text.isWordCharacter c

/-- Whether a word that is not empty stands at the front of a text and ends there. -/
def standsAt (word : String) (text : List Char) : Bool :=
  word ≠ "" && word.toList.isPrefixOf text && endsWord (text.drop word.length)

/-- The point and the digits at the front of a text, or nothing if no digit follows a point. -/
def fraction : List Char → List Char
  | '.' :: text =>
    match text.takeWhile Char.isDigit with
    | [] => []
    | digits => '.' :: digits
  | _ => []

/-- The text that the pattern matches at the front of a longer one. -/
def lexeme? : Pattern → List Char → Option (List Char)
  | word words, text => (words.find? (standsAt · text)).map String.toList
  | name, [] => none
  | name, c :: text => if isNameStart c then some (c :: text.takeWhile isNameCharacter) else none
  | numeral, text =>
    match text.takeWhile Char.isDigit with
    | [] => none
    | whole => some (whole ++ fraction (text.dropWhile Char.isDigit))
  | mark _, [] => none
  | mark characters, c :: _ => if c ∈ characters then some [c] else none

theorem lexeme?_ne_nil {pattern : Pattern} {text lexeme : List Char}
    (h : pattern.lexeme? text = some lexeme) : lexeme ≠ [] := by
  rintro rfl
  cases pattern with
  | word words =>
    obtain ⟨word, hfind, hempty⟩ := Option.map_eq_some_iff.1 h
    have hstands := List.find?_some hfind
    have hword : word = "" := by simpa using hempty
    simp [standsAt, hword] at hstands
  | name => cases text <;> simp [lexeme?] at h
  | numeral =>
    simp only [lexeme?] at h
    split at h <;> simp_all
  | mark characters => cases text <;> simp [lexeme?] at h

def IsDigits (text : List Char) : Prop :=
  text ≠ [] ∧ ∀ c ∈ text, c.isDigit = true

/-- The texts of a pattern, wherever they stand. -/
def Spells : Pattern → List Char → Prop
  | word words, lexeme => ∃ w ∈ words, w.toList = lexeme
  | name, lexeme =>
    ∃ c text, lexeme = c :: text ∧ isNameStart c = true ∧ ∀ d ∈ text, isNameCharacter d = true
  | numeral, lexeme =>
    IsDigits lexeme ∨
      ∃ whole digits, lexeme = whole ++ '.' :: digits ∧ IsDigits whole ∧ IsDigits digits
  | mark characters, lexeme => ∃ c ∈ characters, lexeme = [c]

end Pattern

structure Rule where
  kind : Kind
  pattern : Pattern
deriving DecidableEq

abbrev Grammar := List Rule

/-- The kind and the text that the first matching rule finds at the front of a text. -/
def Grammar.match? (grammar : Grammar) (text : List Char) : Option (Kind × List Char) :=
  grammar.findSome? fun rule ↦ (rule.pattern.lexeme? text).map (rule.kind, ·)

theorem Grammar.match?_ne_nil {grammar : Grammar} {text lexeme : List Char} {kind : Kind}
    (h : grammar.match? text = some (kind, lexeme)) : lexeme ≠ [] := by
  obtain ⟨rule, -, hrule⟩ := List.exists_of_findSome?_eq_some h
  obtain ⟨_, hlexeme, hpair⟩ := Option.map_eq_some_iff.1 hrule
  cases hpair
  exact Pattern.lexeme?_ne_nil hlexeme

/-- The rules of the language. The reserved words come before the names, which they would be. -/
def grammar : Grammar :=
  [⟨.keyword, .word reservedWords⟩,
   ⟨.identifier, .name⟩,
   ⟨.number, .numeral⟩,
   ⟨.assign, .mark ['=']⟩,
   ⟨.operator, .mark ['+', '-', '*', '/']⟩,
   ⟨.semicolon, .mark [';']⟩,
   ⟨.leftParen, .mark ['(']⟩,
   ⟨.rightParen, .mark [')']⟩]

end StraightLine.Token
