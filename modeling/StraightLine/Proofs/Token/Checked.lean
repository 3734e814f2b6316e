import StraightLine.Program.Reader
import StraightLine.Proofs.Token.Place
import Mathlib.Algebra.Group.Nat.Defs

/-!
# Lexing with machine numbers

Here a lexer counts in numbers below 2^64 and cuts its source at byte offsets, as a machine does: a sum
that is no such number, and a cut inside of a character or behind the end, give nothing at all. On a
source of fewer than 2^63 bytes this does not happen, and everything comes out as in unbounded counting:
`lexing_stays_in_bounds`. One measure is enough for it. A character that is read adds at most one to lines
and columns together, and at least one to the offset, which is never larger than the source: `IsBounded`.
-/

namespace StraightLine

open Text

/-! ## Positions -/

namespace Position

/-- Whether a position is one to which some number of characters can lead. -/
structure IsBounded (p : Position) (count : ℕ) : Prop where
  one_le_line : 1 ≤ p.line
  one_le_column : 1 ≤ p.column
  line_add_column_le : (p.line - 1) + (p.column - 1) ≤ count
  count_le_offset : count ≤ p.offset

theorem isBounded_start : start.IsBounded 0 :=
  ⟨le_rfl, le_rfl, le_rfl, le_rfl⟩

variable {p : Position} {count : ℕ}

/-- A line feed gives up the columns of its line for one line more. -/
theorem IsBounded.advance (h : p.IsBounded count) (c : Char) :
    (p.advance c).IsBounded (count + 1) := by
  obtain ⟨hline, hcolumn, hsum, hcount⟩ := h
  have hsize := c.utf8Size_pos
  unfold Position.advance
  split
  · exact ⟨by simp only; omega, le_rfl, by simp only; omega, by simp only; omega⟩
  · exact ⟨hline, by simp only; omega, by simp only; omega, by simp only; omega⟩

theorem IsBounded.advanceOver (h : p.IsBounded count) (text : List Char) :
    (p.advanceOver text).IsBounded (count + text.length) := by
  induction text generalizing p count with
  | nil => exact h
  | cons c text ih =>
    have hrest := ih (h.advance c)
    rwa [Nat.add_right_comm] at hrest

theorem isBounded_ofText (text : List Char) : (ofText text).IsBounded text.length := by
  have hbounded := isBounded_start.advanceOver text
  rwa [← ofText_nil, advanceOver_ofText, List.nil_append, Nat.zero_add] at hbounded

end Position

/-! ## Counting and cutting -/

/-- The sum of two numbers, if it is below 2^64. -/
def checkedAdd? (m n : ℕ) : Option ℕ :=
  if m + n < 2 ^ 64 then some (m + n) else none

theorem checkedAdd?_of_lt {m n : ℕ} (h : m + n < 2 ^ 64) : checkedAdd? m n = some (m + n) :=
  if_pos h

/-- The two parts of a text at a byte offset, if a character begins there or the text ends there. -/
def cutAt? (text : String) (offset : ℕ) : Option (String × String) :=
  if h : String.Pos.Raw.IsValid text ⟨offset⟩ then
    let place : text.Pos := ⟨⟨offset⟩, h⟩
    some ((text.sliceTo place).copy, (text.sliceFrom place).copy)
  else none

theorem isValid_append (front rest : String) :
    String.Pos.Raw.IsValid (front ++ rest) ⟨front.utf8ByteSize⟩ :=
  String.Pos.Raw.isValid_iff_exists_append.2 ⟨front, rest, rfl, rfl⟩

theorem cutAt?_append (front rest : String) :
    cutAt? (front ++ rest) front.utf8ByteSize = some (front, rest) := by
  have hvalid := isValid_append front rest
  let place : (front ++ rest).Pos := ⟨⟨front.utf8ByteSize⟩, hvalid⟩
  have hsplits : place.Splits front rest := ⟨rfl, rfl⟩
  rw [cutAt?, dif_pos hvalid]
  simp only [Option.some.injEq, Prod.mk.injEq]
  exact ⟨place.splits.eq_left hsplits, place.splits.eq_right hsplits⟩

namespace Position

/-- The position one column further on. -/
def nextChecked? (p : Position) (c : Char) : Option Position := do
  let offset ← checkedAdd? p.offset c.utf8Size
  let column ← checkedAdd? p.column 1
  return ⟨offset, p.line, column⟩

def advanceChecked? (p : Position) (c : Char) : Option Position :=
  if c = '\n' then do
    let offset ← checkedAdd? p.offset c.utf8Size
    let line ← checkedAdd? p.line 1
    return ⟨offset, line, 1⟩
  else p.nextChecked? c

theorem nextChecked?_eq {p : Position} {c : Char} (hoffset : p.offset + c.utf8Size < 2 ^ 64)
    (hcolumn : p.column + 1 < 2 ^ 64) :
    p.nextChecked? c = some ⟨p.offset + c.utf8Size, p.line, p.column + 1⟩ := by
  simp [nextChecked?, checkedAdd?_of_lt hoffset, checkedAdd?_of_lt hcolumn]

theorem advanceChecked?_eq {p : Position} {c : Char} {count : ℕ} (h : p.IsBounded count)
    (hoffset : p.offset + c.utf8Size < 2 ^ 63) : p.advanceChecked? c = some (p.advance c) := by
  obtain ⟨hline, hcolumn, hsum, hcount⟩ := h
  unfold advanceChecked? advance
  split
  · simp [checkedAdd?_of_lt (show p.offset + c.utf8Size < 2 ^ 64 by omega),
      checkedAdd?_of_lt (show p.line + 1 < 2 ^ 64 by omega)]
  · exact nextChecked?_eq (by omega) (by omega)

end Position

namespace Token

def stopChecked? (token : Token) : Option Position := do
  let offset ← checkedAdd? token.position.offset token.lexeme.utf8ByteSize
  let column ← checkedAdd? token.position.column token.lexeme.length
  return ⟨offset, token.position.line, column⟩

namespace Cursor

def skipSpaceChecked? : Position → List Char → Option Cursor
  | place, [] => some ⟨place, []⟩
  | place, c :: rest =>
    if isWhiteSpace c then do
      let place ← place.advanceChecked? c
      skipSpaceChecked? place rest
    else some ⟨place, c :: rest⟩

/-- The cursor past the characters that begin in front of an offset. They are on one line. -/
def passChecked? (stop : ℕ) : Position → List Char → Option Cursor
  | place, [] => some ⟨place, []⟩
  | place, c :: rest =>
    if place.offset < stop then do
      let place ← place.nextChecked? c
      passChecked? stop place rest
    else some ⟨place, c :: rest⟩

/-- The token that begins at a cursor, found in what is left of the source there, or the character that
begins none. The text of the token is cut out of the source again. -/
def scanChecked? (source : String) (cursor : Cursor) (c : Char) :
    Option (Except UnknownCharacter Token × Cursor) := do
  let (_, rest) ← cutAt? source cursor.position.offset
  match grammar.match? rest.toList with
  | none => return (.error ⟨c, cursor.position⟩, cursor)
  | some (kind, found) =>
    let length := (String.ofList found).utf8ByteSize
    let (lexeme, _) ← cutAt? rest length
    let stop ← checkedAdd? cursor.position.offset length
    let after ← passChecked? stop cursor.position cursor.rest
    return (.ok ⟨kind, lexeme, cursor.position⟩, after)

end Cursor

namespace Lexer

def nextChecked? (source : String) (lexer : Lexer) :
    Option (Option (Except UnknownCharacter Token) × Lexer) :=
  if lexer.failed then some (none, lexer)
  else do
    let cursor ← Cursor.skipSpaceChecked? lexer.cursor.position lexer.cursor.rest
    match cursor.rest with
    | [] => return (none, ⟨cursor, false⟩)
    | c :: _ =>
      let (item, after) ← cursor.scanChecked? source c
      return (some item, ⟨after, item.toOption.isNone⟩)

def afterChecked? (source : String) : Lexer → ℕ → Option Lexer
  | lexer, 0 => some lexer
  | lexer, count + 1 => do
    let (_, later) ← lexer.nextChecked? source
    later.afterChecked? source count

end Lexer

end Token

def Reader.ofTokensChecked? (tokens : List Token) : Option Reader :=
  match tokens.getLast? with
  | none => some ⟨tokens, .start⟩
  | some token => token.stopChecked?.map (⟨tokens, ·⟩)

/-! ## Agreement -/

namespace Token

open Position

namespace Cursor

theorem skipSpaceChecked?_append {place : Position} {count : ℕ} {gap rest : List Char}
    (h : place.IsBounded count) (hgap : Blank gap) (hrest : Stops isWhiteSpace rest)
    (hsize : place.offset + (String.ofList gap).utf8ByteSize < 2 ^ 63) :
    skipSpaceChecked? place (gap ++ rest) = some ⟨place.advanceOver gap, rest⟩ := by
  induction gap generalizing place count with
  | nil =>
    cases rest with
    | nil => rfl
    | cons c rest => exact if_neg (by simp [stops_cons.1 hrest])
  | cons c gap ih =>
    have hc := hgap c List.mem_cons_self
    have hbytes := utf8ByteSize_ofList_append [c] gap
    rw [utf8ByteSize_ofList_singleton, List.singleton_append] at hbytes
    have hplace : place.advanceChecked? c = some (place.advance c) :=
      advanceChecked?_eq h (by omega)
    have hlater := ih (h.advance c) (fun d hd ↦ hgap d (List.mem_cons_of_mem c hd))
      (by rw [offset_advance]; omega)
    rw [List.cons_append, skipSpaceChecked?, if_pos hc, hplace]
    exact hlater

theorem passChecked?_append {place : Position} {lexeme rest : List Char} {stop : ℕ}
    (hstop : place.offset + (String.ofList lexeme).utf8ByteSize = stop) (hsize : stop < 2 ^ 64)
    (hcolumn : place.column + lexeme.length < 2 ^ 64) :
    passChecked? stop place (lexeme ++ rest) =
      some ⟨⟨stop, place.line, place.column + lexeme.length⟩, rest⟩ := by
  induction lexeme generalizing place with
  | nil =>
    have hend : place.offset = stop := by simpa using hstop
    subst hend
    cases rest with
    | nil => rfl
    | cons c rest => exact if_neg (lt_irrefl _)
  | cons c lexeme ih =>
    have hbytes := utf8ByteSize_ofList_append [c] lexeme
    rw [utf8ByteSize_ofList_singleton, List.singleton_append] at hbytes
    have hc := c.utf8Size_pos
    rw [List.length_cons] at hcolumn
    have hplace := @nextChecked?_eq place c (by omega) (by omega)
    have hlater := @ih ⟨place.offset + c.utf8Size, place.line, place.column + 1⟩
      (by simp only; omega) (by simp only; omega)
    rw [List.cons_append, passChecked?, if_pos (by omega), hplace]
    refine hlater.trans ?_
    simp only [List.length_cons, Nat.add_assoc, Nat.add_comm 1]

/-- The characters of a token take a cursor to the end of the token. -/
theorem passChecked?_token {token : Token} (hoffset : token.stop.offset < 2 ^ 64)
    (hcolumn : token.stop.column < 2 ^ 64) (rest : List Char) :
    passChecked? token.stop.offset token.position (token.lexeme.toList ++ rest) =
      some ⟨token.stop, rest⟩ := by
  have hend : token.position.offset + (String.ofList token.lexeme.toList).utf8ByteSize =
      token.stop.offset := by
    rw [String.ofList_toList]
    rfl
  exact passChecked?_append hend hoffset hcolumn

end Cursor

theorem stopChecked?_eq {token : Token} (hoffset : token.stop.offset < 2 ^ 64)
    (hcolumn : token.stop.column < 2 ^ 64) : token.stopChecked? = some token.stop := by
  unfold stop at hoffset hcolumn
  simp [stopChecked?, checkedAdd?_of_lt hoffset, checkedAdd?_of_lt hcolumn, stop]

/-! ### Places in a source -/

section Source

variable {source : String} {front rest : List Char}

theorem eq_append_of_toList (h : source.toList = front ++ rest) :
    source = String.ofList front ++ String.ofList rest := by
  rw [← String.ofList_append, ← h, String.ofList_toList]

/-- A source is cut where the characters of its front end. -/
theorem cutAt?_ofText (h : source.toList = front ++ rest) :
    cutAt? source (ofText front).offset = some (String.ofList front, String.ofList rest) := by
  rw [eq_append_of_toList h]
  exact cutAt?_append _ _

theorem offset_ofText_le (h : source.toList = front ++ rest) :
    (ofText front).offset ≤ source.utf8ByteSize := by
  have hbytes := utf8ByteSize_ofList_append front rest
  rw [← h, String.ofList_toList] at hbytes
  exact Nat.le.intro hbytes.symm

theorem isValid_ofText (h : source.toList = front ++ rest) :
    String.Pos.Raw.IsValid source ⟨(ofText front).offset⟩ := by
  rw [eq_append_of_toList h]
  exact isValid_append _ _

theorem column_ofText_le (h : source.toList = front ++ rest) :
    (ofText front).column ≤ source.utf8ByteSize + 1 := by
  have hoffset := offset_ofText_le h
  obtain ⟨-, -, hsum, hcount⟩ := isBounded_ofText front
  omega

end Source

namespace Cursor

variable {source : String} {front rest : List Char}

theorem skipSpaceChecked?_ofText {gap : List Char} (h : source.toList = front ++ gap ++ rest)
    (hsize : source.utf8ByteSize < 2 ^ 63) (hgap : Blank gap) (hrest : Stops isWhiteSpace rest) :
    skipSpaceChecked? (ofText front) (gap ++ rest) = some ⟨ofText (front ++ gap), rest⟩ := by
  have hoffset := offset_ofText_le h
  rw [← advanceOver_ofText]
  apply skipSpaceChecked?_append (isBounded_ofText front) hgap hrest
  calc
    (ofText front).offset + (String.ofList gap).utf8ByteSize = (ofText (front ++ gap)).offset :=
      (utf8ByteSize_ofList_append front gap).symm
    _ < 2 ^ 63 := hoffset.trans_lt hsize

theorem scanChecked?_unknown {c : Char} (h : source.toList = front ++ c :: rest)
    (hfirst : Kind.ofFirst? c = none) :
    scanChecked? source ⟨ofText front, c :: rest⟩ c =
      some (.error ⟨c, ofText front⟩, ⟨ofText front, c :: rest⟩) := by
  have hmatch : grammar.match? (c :: rest) = none := match?_eq_none_iff.2 hfirst
  simp [scanChecked?, cutAt?_ofText h, hmatch]

theorem scanChecked?_token {token : Token}
    (h : source.toList = front ++ (token.lexeme.toList ++ rest))
    (hplace : token.position = ofText front) (hfits : Fits token.kind token.lexeme.toList rest)
    (hoffset : token.stop.offset < 2 ^ 64) (hcolumn : token.stop.column < 2 ^ 64) (c : Char) :
    scanChecked? source ⟨token.position, token.lexeme.toList ++ rest⟩ c =
      some (.ok token, ⟨token.stop, rest⟩) := by
  have hmatch : grammar.match? (token.lexeme.toList ++ rest) =
      some (token.kind, token.lexeme.toList) := match?_eq_some_iff.2 ⟨rest, rfl, hfits⟩
  have hsource := cutAt?_ofText h
  rw [← hplace] at hsource
  have hstop : checkedAdd? token.position.offset token.lexeme.utf8ByteSize = some token.stop.offset :=
    checkedAdd?_of_lt hoffset
  simp [scanChecked?, hsource, hmatch, cutAt?_append, hstop, passChecked?_token hoffset hcolumn]

end Cursor

namespace Lexer

section Step

variable {source : String} {front gap rest : List Char}

theorem nextChecked?_of_blank (h : source.toList = front ++ gap)
    (hsize : source.utf8ByteSize < 2 ^ 63) (hgap : Blank gap) :
    nextChecked? source ⟨⟨ofText front, gap⟩, false⟩ =
      some (none, ⟨⟨ofText (front ++ gap), []⟩, false⟩) := by
  rw [← List.append_nil (front ++ gap)] at h
  have hskip := Cursor.skipSpaceChecked?_ofText h hsize hgap stops_nil
  rw [List.append_nil] at hskip
  simp [nextChecked?, hskip]

theorem nextChecked?_of_unknown {c : Char} (h : source.toList = front ++ gap ++ c :: rest)
    (hsize : source.utf8ByteSize < 2 ^ 63) (hgap : Blank gap) (hvisible : isWhiteSpace c = false)
    (hfirst : Kind.ofFirst? c = none) :
    nextChecked? source ⟨⟨ofText front, gap ++ c :: rest⟩, false⟩ =
      some (some (.error ⟨c, ofText (front ++ gap)⟩),
        ⟨⟨ofText (front ++ gap), c :: rest⟩, true⟩) := by
  have hskip := Cursor.skipSpaceChecked?_ofText h hsize hgap (stops_cons.2 hvisible)
  have hscan := Cursor.scanChecked?_unknown h hfirst
  simp [nextChecked?, hskip, hscan, Except.toOption]

theorem nextChecked?_of_token {token : Token}
    (h : source.toList = front ++ gap ++ (token.lexeme.toList ++ rest))
    (hsize : source.utf8ByteSize < 2 ^ 63) (hgap : Blank gap)
    (hposition : token.position = ofText (front ++ gap))
    (hstop : token.stop = ofText (front ++ gap ++ token.lexeme.toList))
    (hfits : Fits token.kind token.lexeme.toList rest) :
    nextChecked? source ⟨⟨ofText front, gap ++ (token.lexeme.toList ++ rest)⟩, false⟩ =
      some (some (.ok token), ⟨⟨token.stop, rest⟩, false⟩) := by
  have hskip := Cursor.skipSpaceChecked?_ofText h hsize hgap (hfits.stops_isWhiteSpace rest)
  rw [← hposition] at hskip
  have hsplit : source.toList = front ++ gap ++ token.lexeme.toList ++ rest := by
    rw [h, List.append_assoc _ token.lexeme.toList]
  have hoffset := offset_ofText_le hsplit
  have hcolumn := column_ofText_le hsplit
  rw [← hstop] at hoffset hcolumn
  -- the lexer looks at the first character only to name it if nothing begins with it
  obtain ⟨c, others, hcons⟩ := List.exists_cons_of_ne_nil hfits.ne_nil
  have hscan := Cursor.scanChecked?_token h hposition hfits (by omega) (by omega) c
  rw [hcons, List.cons_append] at hskip hscan
  simp [nextChecked?, hcons, hskip, hscan, Except.toOption]

end Step

/-- A lexer that knows where it is in a source does with machine numbers what it does with any. -/
theorem Tracks.nextChecked?_eq {source : String} {lexer : Lexer} {consumed : List Char}
    (h : Tracks source lexer consumed) (hsize : source.utf8ByteSize < 2 ^ 63) :
    lexer.nextChecked? source = some lexer.next := by
  obtain ⟨htext, hplace⟩ := h
  have hanswer := answer_next lexer
  generalize lexer.next = result at hanswer
  cases hanswer with
  | exhausted => rfl
  | ended hgap =>
    simp only at htext hplace
    subst hplace
    rw [advanceOver_ofText]
    exact nextChecked?_of_blank htext hsize hgap
  | unknown hgap hvisible hfirst =>
    simp only at htext hplace
    subst hplace
    rw [← List.append_assoc] at htext
    rw [advanceOver_ofText]
    exact nextChecked?_of_unknown htext hsize hgap hvisible hfirst
  | token hgap hposition hfits =>
    simp only at htext hplace
    obtain ⟨hbehind, hstop⟩ := hfits.places hplace hposition
    subst hplace
    rw [← List.append_assoc] at htext
    exact nextChecked?_of_token htext hsize hgap hbehind hstop hfits

theorem Tracks.afterChecked?_eq {source : String} {lexer : Lexer} {consumed : List Char}
    (h : Tracks source lexer consumed) (hsize : source.utf8ByteSize < 2 ^ 63) (count : ℕ) :
    lexer.afterChecked? source count = some (lexer.after count) := by
  induction count generalizing lexer consumed with
  | zero => rfl
  | succ count ih =>
    obtain ⟨read, hread⟩ := h.next.1
    rw [afterChecked?, h.nextChecked?_eq hsize]
    exact ih hread

section Bounds

variable {source : String} {lexer : Lexer} {consumed : List Char} {token : Token}

/-- The bounds hold between any two characters of what a lexer still has in front of it. -/
theorem Tracks.isBounded (h : Tracks source lexer consumed) {read rest : List Char}
    (hrest : lexer.cursor.rest = read ++ rest) :
    (lexer.cursor.position.advanceOver read).IsBounded (consumed ++ read).length ∧
      (lexer.cursor.position.advanceOver read).offset ≤ source.utf8ByteSize := by
  have htext : source.toList = consumed ++ read ++ rest := by
    rw [h.text, List.append_assoc, ← hrest]
  rw [h.place, advanceOver_ofText]
  exact ⟨isBounded_ofText _, offset_ofText_le htext⟩

/-- A token that a lexer hands out ends in the source. -/
theorem Tracks.stop_le (h : Tracks source lexer consumed)
    (htoken : lexer.next.1 = some (.ok token)) :
    token.stop.offset ≤ source.utf8ByteSize ∧ token.stop.column ≤ source.utf8ByteSize + 1 := by
  obtain ⟨gap, rest, htext, -, hstop, -⟩ := h.next_token htoken
  rw [hstop]
  exact ⟨offset_ofText_le htext, column_ofText_le htext⟩

theorem Tracks.stopChecked?_eq (h : Tracks source lexer consumed)
    (hsize : source.utf8ByteSize < 2 ^ 63) (htoken : lexer.next.1 = some (.ok token)) :
    token.stopChecked? = some token.stop := by
  obtain ⟨hoffset, hcolumn⟩ := h.stop_le htoken
  exact Token.stopChecked?_eq (by omega) (by omega)

theorem Tracks.isValid (h : Tracks source lexer consumed)
    (htoken : lexer.next.1 = some (.ok token)) :
    String.Pos.Raw.IsValid source ⟨token.position.offset⟩ ∧
      String.Pos.Raw.IsValid source ⟨token.stop.offset⟩ := by
  obtain ⟨gap, rest, htext, hplace, hstop, -⟩ := h.next_token htoken
  rw [hplace, hstop]
  have hstart : source.toList = consumed ++ gap ++ (token.lexeme.toList ++ rest) := by
    rw [htext, List.append_assoc _ token.lexeme.toList]
  exact ⟨isValid_ofText hstart, isValid_ofText htext⟩

end Bounds

theorem ofTokensChecked?_eq {source : String} (hsize : source.utf8ByteSize < 2 ^ 63)
    {tokens : List Token} (h : ∀ token ∈ tokens, token ∈ (ofSource source).remaining.items) :
    Reader.ofTokensChecked? tokens = some (.ofTokens tokens) := by
  unfold Reader.ofTokensChecked? Reader.ofTokens
  cases hlast : tokens.getLast? with
  | none => rfl
  | some token =>
    have hmem := h token (List.mem_of_getLast? hlast)
    obtain ⟨count, htoken⟩ := exists_next_of_mem_remaining hmem
    obtain ⟨read, hread⟩ := exists_tracks_after (tracks_ofSource source) count
    simp [hread.stopChecked?_eq hsize htoken]

/-- On a source of fewer than 2^63 bytes a lexer never counts beyond a machine number and never cuts a
character. Wherever it is in the source, also between two characters of what it reads at once, lines and
columns are bounded by the characters that it has read, and these by the offset and by the size of the
source. So are the places where tokens end, and with them the end that a reader of tokens remembers. -/
theorem lexing_stays_in_bounds (source : String) (hsize : source.utf8ByteSize < 2 ^ 63) (count : ℕ) :
    (ofSource source).afterChecked? source count = some ((ofSource source).after count) ∧
    let lexer := (ofSource source).after count
    lexer.nextChecked? source = some lexer.next ∧
    (∃ consumed, source.toList = consumed ++ lexer.cursor.rest ∧
      ∀ read rest, lexer.cursor.rest = read ++ rest →
        let place := lexer.cursor.position.advanceOver read
        1 ≤ place.line ∧ 1 ≤ place.column ∧
        (place.line - 1) + (place.column - 1) ≤ (consumed ++ read).length ∧
        (consumed ++ read).length ≤ place.offset ∧ place.offset ≤ source.utf8ByteSize) ∧
    (∀ token, lexer.next.1 = some (.ok token) →
      token.position.offset + token.lexeme.utf8ByteSize ≤ source.utf8ByteSize ∧
      token.stop.offset ≤ source.utf8ByteSize ∧ token.stop.column ≤ source.utf8ByteSize + 1 ∧
      token.stopChecked? = some token.stop ∧
      String.Pos.Raw.IsValid source ⟨token.position.offset⟩ ∧
      String.Pos.Raw.IsValid source ⟨token.stop.offset⟩) ∧
    ∀ tokens, (∀ token ∈ tokens, token ∈ (ofSource source).remaining.items) →
      Reader.ofTokensChecked? tokens = some (.ofTokens tokens) := by
  refine ⟨(tracks_ofSource source).afterChecked?_eq hsize count, ?_⟩
  intro lexer
  obtain ⟨consumed, hconsumed⟩ := exists_tracks_after (tracks_ofSource source) count
  rw [List.nil_append] at hconsumed
  refine ⟨hconsumed.nextChecked?_eq hsize, ⟨consumed, hconsumed.text, fun read rest hrest ↦ ?_⟩,
    fun token htoken ↦ ?_, fun tokens htokens ↦ ?_⟩
  · obtain ⟨⟨hline, hcolumn, hsum, hcount⟩, hoffset⟩ := hconsumed.isBounded hrest
    exact ⟨hline, hcolumn, hsum, hcount, hoffset⟩
  · obtain ⟨hoffset, hcolumn⟩ := hconsumed.stop_le htoken
    exact ⟨hoffset, hoffset, hcolumn, hconsumed.stopChecked?_eq hsize htoken,
      hconsumed.isValid htoken⟩
  · exact ofTokensChecked?_eq hsize htokens

/-- The white space U+3000 takes three bytes and one column. -/
theorem lexing_stays_in_bounds_on_two_lines :
    "x =\n\u300010;".utf8ByteSize < 2 ^ 63 ∧
      ((ofSource "x =\n\u300010;").afterChecked? "x =\n\u300010;" 2).bind
          (·.nextChecked? "x =\n\u300010;") =
        some (some (.ok ⟨.number, "10", ⟨7, 2, 2⟩⟩), ⟨⟨⟨9, 2, 4⟩, [';']⟩, false⟩) := by
  have hsize : "x =\n\u300010;".utf8ByteSize < 2 ^ 63 := by decide
  obtain ⟨hafter, hnext, -⟩ := lexing_stays_in_bounds "x =\n\u300010;" hsize 2
  refine ⟨hsize, ?_⟩
  rw [hafter, Option.bind_some, hnext]
  decide +kernel

end Lexer

end Token

end StraightLine
