import StraightLine.Proofs.Text.Blank
import StraightLine.Text.Quoted
import Mathlib.Data.List.Infix

/-!
# Written forms

A written form says how the values of a type are written and how they are read again, and that what
is read is what was written, whatever stands behind it. Forms can therefore be put one behind the other
and repeated. Numerals are a form when a character that is no digit ends them, and so is quoted text: no
escape begins with the quote that ends it, and the first characters of an escape tell how long it is.
-/

namespace StraightLine.Text

/-- A way of writing values, and of reading them whatever stands behind them. -/
structure Form (α : Type) where
  write : α → List Char
  read? : List Char → Option (α × List Char)
  read?_write (a : α) (rest : List Char) : read? (write a ++ rest) = some (a, rest)

namespace Form

variable {α β : Type}

def map (form : Form α) (f : α → β) (g : β → α) (h : ∀ b, f (g b) = b) : Form β where
  write b := form.write (g b)
  read? text := (form.read? text).map fun (a, rest) ↦ (f a, rest)
  read?_write b rest := by
    rw [form.read?_write, Option.map_some]
    exact congrArg (fun b ↦ some (b, rest)) (h b)

def behind (word : List Char) (form : Form α) : Form α where
  write a := word ++ form.write a
  read? text := (word.isPrefixOf? text).bind form.read?
  read?_write a rest := by
    have hword : word.isPrefixOf? (word ++ (form.write a ++ rest)) = some (form.write a ++ rest) :=
      List.isPrefixOf?_eq_some_iff_append_eq.2 rfl
    rw [List.append_assoc, hword]
    exact form.read?_write a rest

def pair (first : Form α) (second : Form β) : Form (α × β) where
  write value := first.write value.1 ++ second.write value.2
  read? text := do
    let (a, rest) ← first.read? text
    let (b, rest) ← second.read? rest
    return ((a, b), rest)
  read?_write value rest := by
    rw [List.append_assoc, first.read?_write]
    simp [second.read?_write]

/-- A value up to a character that its text does not have in it. -/
def endedBy (stop : Char) (write : α → List Char) (read? : List Char → Option α)
    (hstop : ∀ a, stop ∉ write a) (hread : ∀ a, read? (write a) = some a) : Form α where
  write a := write a ++ [stop]
  read? text :=
    match text.dropWhile (· ≠ stop) with
    | [] => none
    | _ :: rest => (read? (text.takeWhile (· ≠ stop))).map (·, rest)
  read?_write a rest := by
    have htext : ∀ c ∈ write a, decide (c ≠ stop) = true := by
      intro c hc
      rw [decide_eq_true_eq]
      rintro rfl
      exact hstop a hc
    have hrest : Stops (· ≠ stop) (stop :: rest) := by simp
    rw [List.append_assoc, List.singleton_append, dropWhile_append_of_stops htext hrest,
      takeWhile_append_of_stops htext hrest]
    simp [hread]

/-! ### Repetition -/

/-- The values up to a character that ends them, and what stands behind it. -/
def readUpTo? (item : Form α) (stop : Char) (text : List Char) : Option (List α × List Char) :=
  match text with
  | [] => none
  | c :: others =>
    if c = stop then some ([], others)
    else match item.read? (c :: others) with
      | none => none
      | some (a, rest) =>
        -- an item without a text could be read for ever
        if rest.length < others.length + 1 then
          (readUpTo? item stop rest).map fun (items, rest) ↦ (a :: items, rest)
        else none
termination_by text.length

theorem readUpTo?_stop (item : Form α) (stop : Char) (rest : List Char) :
    item.readUpTo? stop (stop :: rest) = some ([], rest) := by
  rw [readUpTo?, if_pos rfl]

theorem readUpTo?_write (item : Form α) {stop : Char} {a : α}
    (h : ∃ c others, item.write a = c :: others ∧ c ≠ stop) (rest : List Char) :
    item.readUpTo? stop (item.write a ++ rest) =
      (item.readUpTo? stop rest).map fun (items, rest) ↦ (a :: items, rest) := by
  obtain ⟨c, others, hwrite, hc⟩ := h
  have hread := item.read?_write a rest
  have hshorter : rest.length < (others ++ rest).length + 1 := by
    rw [List.length_append]
    omega
  rw [hwrite, List.cons_append] at hread ⊢
  rw [readUpTo?, if_neg hc, hread]
  exact if_pos hshorter

def upTo (item : Form α) (stop : Char)
    (h : ∀ a, ∃ c others, item.write a = c :: others ∧ c ≠ stop) : Form (List α) where
  write items := items.flatMap item.write ++ [stop]
  read? := item.readUpTo? stop
  read?_write items rest := by
    rw [List.append_assoc, List.singleton_append]
    induction items with
    | nil => exact item.readUpTo?_stop stop rest
    | cons a items ih =>
      rw [List.flatMap_cons, List.append_assoc, item.readUpTo?_write (h a), ih, Option.map_some]

end Form

/-! ## Numerals -/

def digit? (c : Char) : Option Nat :=
  (List.range 16).find? (·.digitChar = c)

theorem digit?_digitChar {digit : Nat} (h : digit < 16) : digit? digit.digitChar = some digit := by
  have hall : ∀ digit < 16, digit? digit.digitChar = some digit := by decide
  exact hall digit h

def number? (base : Nat) (digits : List Char) : Option Nat :=
  digits.foldlM (fun number c ↦ (digit? c).map (base * number + ·)) 0

theorem number?_toDigits {base : Nat} (hbase : 1 < base) (hsixteen : base ≤ 16) (number : Nat) :
    number? base (Nat.toDigits base number) = some number := by
  induction number using Nat.strongRecOn with
  | ind number ih =>
    rw [Nat.toDigits_eq_if hbase]
    split
    · next hsmall =>
      have hdigit : digit? number.digitChar = some number := digit?_digitChar (by omega)
      simp [number?, hdigit]
    · next hlarge =>
      -- the last digit stands behind those of the quotient
      have hlast := Nat.mod_lt number (by omega : 0 < base)
      have hdigit : digit? (number % base).digitChar = some (number % base) :=
        digit?_digitChar (by omega)
      have hfront := ih (number / base) (Nat.div_lt_self (by omega) hbase)
      unfold number? at hfront ⊢
      rw [List.foldlM_append, hfront]
      simp [hdigit, Nat.div_add_mod]

theorem number?_repr (number : Nat) : number? 10 number.repr.toList = some number := by
  rw [Nat.repr_eq_ofList_toDigits, String.toList_ofList]
  exact number?_toDigits (by decide) (by decide) number

/-- A character that is no digit is in no numeral. -/
theorem not_mem_toDigits {c : Char} (hc : ∀ digit : Nat, digit.digitChar ≠ c) {base : Nat}
    (hbase : 1 < base) (number : Nat) : c ∉ Nat.toDigits base number := by
  induction number using Nat.strongRecOn with
  | ind number ih =>
    rw [Nat.toDigits_eq_if hbase]
    split
    · simpa using (hc number).symm
    · next hlarge =>
      have hfront := ih (number / base) (Nat.div_lt_self (by omega) hbase)
      simpa [hfront] using (hc (number % base)).symm

def Form.number (base : Nat) (hbase : 1 < base ∧ base ≤ 16) (stop : Char)
    (hstop : ∀ digit : Nat, digit.digitChar ≠ stop) : Form Nat :=
  endedBy stop (Nat.toDigits base) (number? base) (not_mem_toDigits hstop hbase.1)
    (number?_toDigits hbase.1 hbase.2)

/-! ## Quoted text -/

/-- A character given by its code point, up to the brace that ends it. -/
def Form.codePoint : Form Char :=
  (Form.number 16 (by decide) '\x7d' fun _ ↦ Nat.digitChar_ne _ (by decide)).map
    Char.ofNat Char.toNat Char.ofNat_toNat

/-- The character at the front of a text in quotes, and what stands behind it. -/
def unescape? : List Char → Option (Char × List Char)
  | '\\' :: '"' :: rest => some ('"', rest)
  | '\\' :: '\\' :: rest => some ('\\', rest)
  | '\\' :: '0' :: rest => some ('\x00', rest)
  | '\\' :: 't' :: rest => some ('\t', rest)
  | '\\' :: 'n' :: rest => some ('\n', rest)
  | '\\' :: 'r' :: rest => some ('\r', rest)
  | '\\' :: 'u' :: '\x7b' :: rest => Form.codePoint.read? rest
  | c :: rest => if c = '\\' ∨ c = '"' then none else some (c, rest)
  | [] => none

theorem unescape?_of_ne {c : Char} (hbackslash : c ≠ '\\') (hquote : c ≠ '"') (rest : List Char) :
    unescape? (c :: rest) = some (c, rest) := by
  unfold unescape?
  split <;> simp_all

theorem codePointEscape_eq (c : Char) :
    codePointEscape c = '\\' :: 'u' :: '\x7b' :: Form.codePoint.write c := by
  simp [codePointEscape, Form.codePoint, Form.map, Form.number, Form.endedBy]

theorem unescape?_escape (c : Char) (rest : List Char) :
    unescape? (escape c ++ rest) = some (c, rest) := by
  unfold escape
  split
  -- the characters without an escape of their own
  case h_7 hquote hbackslash hnull htab hfeed hreturn =>
    split
    · exact unescape?_of_ne hbackslash hquote rest
    · rw [codePointEscape_eq]
      exact Form.codePoint.read?_write c rest
  all_goals rfl

/-- No escape begins with a quote, nor is it empty. -/
theorem exists_escape_eq_cons (c : Char) : ∃ d others, escape c = d :: others ∧ d ≠ '"' := by
  unfold escape
  split
  case h_7 hquote hbackslash hnull htab hfeed hreturn =>
    split
    · exact ⟨c, [], rfl, hquote⟩
    · rw [codePointEscape_eq]
      exact ⟨_, _, rfl, by decide⟩
  all_goals exact ⟨_, _, rfl, by decide⟩

namespace Form

def escaped : Form Char where
  write := escape
  read? := unescape?
  read?_write := unescape?_escape

def quoted : Form String :=
  ((escaped.upTo '"' exists_escape_eq_cons).behind ['"']).map .ofList String.toList
    fun _ ↦ String.ofList_toList

theorem write_quoted (text : String) : quoted.write text = (quote text).toList := by
  rw [quote, String.toList_ofList]
  rfl

end Form

end StraightLine.Text
