import StraightLine.Text.Bytes
import StraightLine.Text.Listing
import Mathlib.Tactic.Common

/-!
# Lines

Characters and bytes are cut into lines in the same way, `linesBy`: each line ends where a given item
stands, and what follows the last of these is a line only if it is not empty. The lines of a listing
are its entries, and the lines of a text are those of the bytes that encode it.
-/

namespace StraightLine.Text

section Cut

variable {α : Type} [DecidableEq α] (feed : α)

def consLine (item : α) (lines : List (List α)) : List (List α) :=
  if item = feed then [] :: lines
  else match lines with
    | [] => [[item]]
    | line :: rest => (item :: line) :: rest

/-- The lines of a sequence, each without the item that ends it. The last one may lack it. -/
def linesBy (items : List α) : List (List α) :=
  items.foldr (consLine feed) []

theorem consLine_of_ne {item : α} (h : item ≠ feed) (line : List α) (rest : List (List α)) :
    consLine feed item (line :: rest) = (item :: line) :: rest := by
  rw [consLine, if_neg h]

theorem foldr_consLine_of_not_mem {items : List α} (h : feed ∉ items) (line : List α)
    (rest : List (List α)) :
    items.foldr (consLine feed) (line :: rest) = (items ++ line) :: rest := by
  induction items with
  | nil => rfl
  | cons item items ih =>
    rw [List.mem_cons, not_or] at h
    obtain ⟨hitem, hitems⟩ := h
    rw [List.foldr_cons, ih hitems, consLine_of_ne feed (Ne.symm hitem), List.cons_append]

/-- A line that nothing ends. -/
theorem linesBy_of_not_mem {items : List α} (hitems : items ≠ []) (h : feed ∉ items) :
    linesBy feed items = [items] := by
  induction items with
  | nil => exact absurd rfl hitems
  | cons item items ih =>
    rw [List.mem_cons, not_or] at h
    obtain ⟨hitem, hrest⟩ := h
    cases items with
    | nil => exact if_neg (Ne.symm hitem)
    | cons next items =>
      have hline := ih (List.cons_ne_nil next items) hrest
      rw [linesBy, List.foldr_cons, ← linesBy, hline, consLine_of_ne feed (Ne.symm hitem)]

theorem foldr_consLine_append (items line : List α) (lines more : List (List α)) :
    items.foldr (consLine feed) (line :: lines ++ more) =
      items.foldr (consLine feed) (line :: lines) ++ more := by
  -- one line is open from the start, so at every step there is a first line to be added to
  suffices h : ∃ first rest, items.foldr (consLine feed) (line :: lines) = first :: rest ∧
      items.foldr (consLine feed) (line :: lines ++ more) = first :: rest ++ more by
    obtain ⟨first, rest, hlines, hmore⟩ := h
    rw [hlines, hmore]
  induction items with
  | nil => exact ⟨line, lines, rfl, rfl⟩
  | cons item items ih =>
    obtain ⟨first, rest, hlines, hmore⟩ := ih
    rw [List.foldr_cons, List.foldr_cons, hlines, hmore]
    by_cases hitem : item = feed
    · exact ⟨[], first :: rest, if_pos hitem, if_pos hitem⟩
    · exact ⟨item :: first, rest, consLine_of_ne feed hitem .., consLine_of_ne feed hitem ..⟩

/-- Whether nothing is left of the last line of a sequence, so that a new one begins behind it. -/
def IsEnded (items : List α) : Prop :=
  items = [] ∨ items.getLast? = some feed

variable {feed}

theorem IsEnded.linesBy_append {front : List α} (h : IsEnded feed front) (rest : List α) :
    linesBy feed (front ++ rest) = linesBy feed front ++ linesBy feed rest := by
  rcases h with rfl | hlast
  · rfl
  · obtain ⟨body, rfl⟩ := List.getLast?_eq_some_iff.1 hlast
    have hfeed (lines : List (List α)) : consLine feed feed lines = [[]] ++ lines := if_pos rfl
    unfold linesBy
    rw [List.foldr_append, List.foldr_append, List.foldr_cons, List.foldr_nil, List.foldr_append,
      List.foldr_cons, List.foldr_nil, hfeed, hfeed]
    exact foldr_consLine_append feed body [] [] _

/-- A line and the item that ends it. -/
theorem linesBy_line {line : List α} (h : feed ∉ line) (rest : List α) :
    linesBy feed (line ++ feed :: rest) = line :: linesBy feed rest := by
  have hfeed : consLine feed feed (linesBy feed rest) = [] :: linesBy feed rest := if_pos rfl
  rw [linesBy, List.foldr_append, List.foldr_cons, ← linesBy, hfeed,
    foldr_consLine_of_not_mem feed h, List.append_nil]

end Cut

/-! ## Texts and listings -/

def lines (text : String) : List String :=
  (linesBy '\n' text.toList).map .ofList

theorem listing_cons (entry : String) (entries : List String) :
    listing (entry :: entries) = entry ++ "\n" ++ listing entries := by
  rw [listing, List.map_cons, String.join_cons]
  rfl

theorem toList_listing (entries : List String) :
    (listing entries).toList = (entries.map String.toList).flatMap (· ++ ['\n']) := by
  simp [listing, String.toList_join, List.flatMap_map]

/-- The lines of a listing are its entries if none of these goes over a line. -/
theorem lines_listing {entries : List String} (h : ∀ entry ∈ entries, '\n' ∉ entry.toList) :
    lines (listing entries) = entries := by
  rw [lines, toList_listing]
  induction entries with
  | nil => rfl
  | cons entry entries ih =>
    obtain ⟨hentry, hentries⟩ := List.forall_mem_cons.1 h
    rw [List.map_cons, List.flatMap_cons, List.append_assoc, List.singleton_append,
      linesBy_line hentry, List.map_cons, ih hentries, String.ofList_toList]

/-- What is written of some things one by one is read again one by one. -/
theorem mapM_map_write {α β γ : Type} {write : α → β} {read? : β → Option γ} {shown : α → γ}
    {items : List α} (h : ∀ item ∈ items, read? (write item) = some (shown item)) :
    (items.map write).mapM read? = some (items.map shown) := by
  induction items with
  | nil => rfl
  | cons item items ih =>
    obtain ⟨hitem, hitems⟩ := List.forall_mem_cons.1 h
    rw [List.map_cons, List.mapM_cons, hitem, ih hitems]
    rfl

/-! ## Bytes -/

theorem Bytes.lines_eq_linesBy (bytes : Bytes) : bytes.lines = linesBy lineFeed bytes := by
  have hcons : consLines = consLine lineFeed := by
    funext byte lines
    cases lines <;> rfl
  rw [Bytes.lines, hcons, linesBy]

theorem Bytes.lines_append {bytes : Bytes} (h : IsEnded lineFeed bytes) (rest : Bytes) :
    (bytes ++ rest).lines = bytes.lines ++ rest.lines := by
  rw [lines_eq_linesBy, lines_eq_linesBy, lines_eq_linesBy]
  exact h.linesBy_append rest

def Bytes.ofText (text : String) : Bytes :=
  text.toList.flatMap String.utf8EncodeChar

theorem Bytes.toByteArray_ofText (text : String) : (ofText text).toByteArray = text.toByteArray := by
  have hencode : (String.ofList text.toList).toByteArray = (ofText text).toByteArray :=
    String.toByteArray_ofList
  rw [← hencode, String.ofList_toList]

/-- The bytes that are text are those that encode one. -/
theorem Bytes.text?_eq_some_iff {bytes : Bytes} {text : String} :
    bytes.text? = some text ↔ bytes = ofText text := by
  have hinj : bytes.toByteArray = text.toByteArray ↔ bytes = ofText text := by
    rw [← toByteArray_ofText]
    refine ⟨fun h ↦ ?_, congrArg List.toByteArray⟩
    rw [← List.toList_data_toByteArray (l := bytes), h, List.toList_data_toByteArray]
  rw [← hinj, Bytes.text?, String.fromUTF8?]
  split
  · next hvalid =>
    rw [Option.some_inj, ← String.toByteArray_inj]
    rfl
  · next hinvalid =>
    refine iff_of_false (by simp) fun h ↦ hinvalid ?_
    rw [h]
    exact text.isValidUTF8

/-- A byte of an encoding is the code point itself, or at least 128 if the encoding is longer. -/
theorem toNat_of_mem_utf8EncodeChar {c : Char} {byte : UInt8} (h : byte ∈ String.utf8EncodeChar c) :
    byte.toNat = c.val.toNat ∨ 128 ≤ byte.toNat := by
  simp only [String.utf8EncodeChar] at h
  split at h
  · obtain rfl := List.mem_singleton.1 h
    rw [UInt8.toNat_ofNat']
    omega
  · right
    -- of a longer encoding every byte has a base that sets its highest bit
    have hlong {code base : Nat} (hcode : code + base < 256) (hbase : 128 ≤ base)
        (hbyte : byte = UInt8.ofNat (code + base)) : 128 ≤ byte.toNat := by
      rw [hbyte, UInt8.toNat_ofNat_of_lt' hcode]
      omega
    split at h
    · simp only [List.mem_cons, List.not_mem_nil, or_false] at h
      rcases h with h | h <;> exact hlong (by omega) (by omega) h
    · split at h
      · simp only [List.mem_cons, List.not_mem_nil, or_false] at h
        rcases h with h | h | h <;> exact hlong (by omega) (by omega) h
      · simp only [List.mem_cons, List.not_mem_nil, or_false] at h
        rcases h with h | h | h | h <;> exact hlong (by omega) (by omega) h

/-- Of all characters only the line feed has its byte in its encoding. -/
theorem lineFeed_not_mem_utf8EncodeChar {c : Char} (h : c ≠ '\n') :
    lineFeed ∉ String.utf8EncodeChar c := by
  intro hmem
  rcases toNat_of_mem_utf8EncodeChar hmem with hcode | hlong
  · exact h (Char.ext (UInt32.toNat_inj.1 hcode.symm))
  · exact absurd hlong (by decide)

theorem Bytes.lines_ofText (text : String) :
    (ofText text).lines = (Text.lines text).map ofText := by
  have hmap : (Text.lines text).map ofText =
      (linesBy '\n' text.toList).map (·.flatMap String.utf8EncodeChar) := by
    simp [Text.lines, ofText, Function.comp_def]
  rw [hmap, lines_eq_linesBy, ofText]
  induction text.toList with
  | nil => rfl
  | cons c text ih =>
    rw [List.flatMap_cons, linesBy, List.foldr_append, ← linesBy, ih]
    by_cases hc : c = '\n'
    · subst hc
      rfl
    · have hbytes := lineFeed_not_mem_utf8EncodeChar hc
      have hcons : linesBy '\n' (c :: text) = consLine '\n' c (linesBy '\n' text) := rfl
      rw [hcons]
      cases linesBy '\n' text with
      | nil =>
        rw [List.map_nil, ← linesBy, linesBy_of_not_mem lineFeed String.utf8EncodeChar_ne_nil hbytes,
          consLine, if_neg hc]
        simp
      | cons line rest =>
        rw [List.map_cons, foldr_consLine_of_not_mem lineFeed hbytes, consLine_of_ne '\n' hc]
        simp

end StraightLine.Text
