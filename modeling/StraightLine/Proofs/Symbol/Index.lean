import StraightLine.Proofs.Symbol.Revision
import Mathlib.Data.Finset.Card

/-!
# Symbol tables as maps with an order

A symbol table can also be kept in two parts: the names in the order of their first declaration, and what
is known of each in a map without an order. An entry that one of the parts lacks would be lost without
notice. After any declarations the two parts have the same names, and the entries they give are those of
the table that keeps everything in one list: `declarations_build_map`.
-/

namespace StraightLine

structure Declaration where
  name : String
  type : SymbolType
  line : ℕ
deriving DecidableEq

/-! ## Tables in two parts -/

/-- The declared names in order, and what is known of each. -/
structure IndexedTable where
  order : List String
  symbols : Std.HashMap String Symbol

namespace IndexedTable

def empty : IndexedTable := ⟨[], ∅⟩

/-- The table after a declaration. Only a new name is put at the end of the order. -/
def define (table : IndexedTable) (name : String) (type : SymbolType) (line : ℕ) : IndexedTable :=
  match table.symbols[name]? with
  | some _ => ⟨table.order, table.symbols.modify name fun symbol ↦ { symbol with type }⟩
  | none => ⟨table.order ++ [name], table.symbols.insert name ⟨type, line⟩⟩

def get? (table : IndexedTable) (name : String) : Option Symbol :=
  table.symbols[name]?

/-- The names in order, each with what is known of it. A name of which nothing is known is left out. -/
def entries (table : IndexedTable) : List (String × Symbol) :=
  table.order.filterMap fun name ↦ (table.get? name).map (name, ·)

def size (table : IndexedTable) : ℕ :=
  table.order.length

def isEmpty (table : IndexedTable) : Bool :=
  table.order.isEmpty

def ofDeclarations (declarations : List Declaration) : IndexedTable :=
  declarations.foldl (fun table d ↦ table.define d.name d.type d.line) empty

end IndexedTable

def SymbolTable.ofDeclarations (declarations : List Declaration) : SymbolTable :=
  declarations.foldl (fun table d ↦ table.define d.name d.type d.line) empty

/-! ## Both kinds of tables -/

/-- Whether a table in two parts has the names of a table in their order, and says of each what the
table says. -/
structure IndexedTable.Represents (indexed : IndexedTable) (table : SymbolTable) : Prop where
  order : indexed.order = table.names
  symbols : ∀ name, indexed.get? name = table.get? name

namespace IndexedTable.Represents

variable {indexed : IndexedTable} {table : SymbolTable}

theorem empty : IndexedTable.empty.Represents .empty where
  order := rfl
  symbols _ := Std.HashMap.getElem?_empty

/-- A declaration keeps the two tables in step. -/
theorem define (h : indexed.Represents table) (name : String) (type : SymbolType) (line : ℕ) :
    (indexed.define name type line).Represents (table.define name type line) := by
  have hname : indexed.symbols[name]? = table.get? name := h.symbols name
  unfold IndexedTable.define
  -- the name is new to both tables or to none
  cases hsymbol : indexed.symbols[name]? with
  | some symbol =>
    rw [hsymbol] at hname
    have hdeclared : name ∈ table.names := by
      by_contra hnew
      rw [SymbolTable.get?_eq_none_iff.2 hnew] at hname
      cases hname
    constructor
    · rw [SymbolTable.names_define, if_pos hdeclared]
      exact h.order
    · intro other
      rw [SymbolTable.get?_define, ← hname, IndexedTable.get?, Std.HashMap.getElem?_modify, hsymbol]
      by_cases hother : other = name
      · simp [hother]
      · rw [if_neg hother, if_neg (by simpa using Ne.symm hother)]
        exact h.symbols other
  | none =>
    rw [hsymbol] at hname
    have hnew : name ∉ table.names := SymbolTable.get?_eq_none_iff.1 hname.symm
    constructor
    · rw [SymbolTable.names_define, if_neg hnew, h.order]
    · intro other
      rw [SymbolTable.get?_define, ← hname, IndexedTable.get?, Std.HashMap.getElem?_insert]
      by_cases hother : other = name
      · simp [hother]
      · rw [if_neg hother, if_neg (by simpa using Ne.symm hother)]
        exact h.symbols other

end IndexedTable.Represents

theorem IndexedTable.represents_ofDeclarations (declarations : List Declaration) :
    (IndexedTable.ofDeclarations declarations).Represents (.ofDeclarations declarations) := by
  induction declarations using List.reverseRecOn with
  | nil => exact .empty
  | append_singleton declarations d ih =>
    unfold IndexedTable.ofDeclarations SymbolTable.ofDeclarations
    rw [List.foldl_concat, List.foldl_concat]
    exact ih.define d.name d.type d.line

namespace SymbolTable

variable {table : SymbolTable}

/-! ## Entries -/

theorem mem_entries_iff (h : table.names.Nodup) {name : String} {symbol : Symbol} :
    (name, symbol) ∈ table.entries ↔ table.get? name = some symbol := by
  constructor
  · exact get?_of_mem_entries h
  · intro hget
    obtain ⟨before, after, hentries, -⟩ := List.lookup_eq_some_iff.1 hget
    rw [hentries]
    exact List.mem_append_right before List.mem_cons_self

/-- The names and what is known of each make up the entries. -/
theorem filterMap_names (h : table.names.Nodup) :
    (table.names.filterMap fun name ↦ (table.get? name).map (name, ·)) = table.entries := by
  calc
    _ = table.entries.filterMap fun entry ↦ (table.get? entry.1).map (entry.1, ·) := by
      rw [names, List.filterMap_map]
      rfl
    _ = table.entries.filterMap some := by
      apply List.filterMap_congr
      intro entry hentry
      rw [get?_of_mem_entries h hentry]
      rfl
    _ = table.entries := List.filterMap_some

/-- A declaration of a name that is declared already changes the type of the name and nothing else. -/
theorem entries_define (h : table.names.Nodup) {name : String} (hname : name ∈ table.names)
    (type : SymbolType) (line : ℕ) :
    (table.define name type line).entries = table.entries.map fun (other, symbol) ↦
      (other, if other = name then { symbol with type } else symbol) := by
  have hnames : (table.define name type line).names = table.names := by
    rw [names_define, if_pos hname]
  -- the names stay as they are, and what is known changes for one of them only
  calc
    (table.define name type line).entries =
        table.names.filterMap fun other ↦
          ((table.define name type line).get? other).map (other, ·) := by
      rw [← filterMap_names (nodup_names_define h name type line), hnames]
    _ = table.entries.filterMap (some ∘ fun (other, symbol) ↦
          (other, if other = name then { symbol with type } else symbol)) := by
      rw [names, List.filterMap_map]
      apply List.filterMap_congr
      intro entry hentry
      have hget := get?_of_mem_entries h hentry
      rw [Function.comp_apply, Function.comp_apply, get?_define]
      by_cases hother : entry.1 = name
      · subst hother
        simp [hget]
      · simp [hget, hother]
    _ = _ := by rw [List.filterMap_eq_map]

end SymbolTable

namespace IndexedTable.Represents

variable {indexed : IndexedTable} {table : SymbolTable}

/-- No name is left out of the entries of a table in two parts. -/
theorem entries_eq (h : indexed.Represents table) (hnodup : table.names.Nodup) :
    indexed.entries = table.entries := by
  rw [← SymbolTable.filterMap_names hnodup, entries, h.order]
  apply List.filterMap_congr
  intro name _
  rw [h.symbols]

/-- The keys of the map are the names. -/
theorem mem_keys_iff (h : indexed.Represents table) {name : String} :
    name ∈ indexed.symbols.keys ↔ name ∈ table.names := by
  calc
    name ∈ indexed.symbols.keys ↔ indexed.get? name ≠ none := by
      rw [Std.HashMap.mem_keys, Std.HashMap.mem_iff_isSome_getElem?, Option.isSome_iff_ne_none]
      rfl
    _ ↔ table.get? name ≠ none := by rw [h.symbols]
    _ ↔ name ∈ table.names := by rw [Ne, SymbolTable.get?_eq_none_iff, not_not]

theorem perm_keys (h : indexed.Represents table) (hnodup : table.names.Nodup) :
    indexed.order.Perm indexed.symbols.keys := by
  rw [h.order]
  apply (List.perm_ext_iff_of_nodup hnodup Std.HashMap.nodup_keys).2
  intro name
  exact h.mem_keys_iff.symm

theorem size_eq (h : indexed.Represents table) : indexed.size = table.size := by
  rw [IndexedTable.size, h.order, SymbolTable.names, List.length_map]
  rfl

theorem isEmpty_eq (h : indexed.Represents table) : indexed.isEmpty = table.isEmpty := by
  rw [IndexedTable.isEmpty, h.order, SymbolTable.names, List.isEmpty_map]
  rfl

end IndexedTable.Represents

namespace SymbolTable

variable {table : SymbolTable}

/-! ## Tables of declarations -/

/-- What a table has of some declarations: each name once and in its place, with the line of the first
declaration of it and the type of the last. -/
structure Records (table : SymbolTable) (declarations : List Declaration) : Prop where
  nodup : table.names.Nodup
  names : table.names = (declarations.map Declaration.name).eraseDups
  line : ∀ name, (table.get? name).map Symbol.line =
    (declarations.find? (·.name = name)).map Declaration.line
  type : ∀ name, (table.get? name).map Symbol.type =
    (declarations.reverse.find? (·.name = name)).map Declaration.type

theorem Records.empty : SymbolTable.empty.Records [] where
  nodup := List.nodup_nil
  names := rfl
  line _ := rfl
  type _ := rfl

theorem Records.define {declarations : List Declaration} (h : table.Records declarations)
    (d : Declaration) : (table.define d.name d.type d.line).Records (declarations ++ [d]) := by
  constructor
  · exact nodup_names_define h.nodup ..
  · rw [names_define, h.names, List.map_append, List.map_singleton, eraseDups_concat]
    simp only [List.mem_eraseDups]
  · intro name
    rw [get?_define, List.find?_append]
    by_cases hname : name = d.name
    · subst hname
      rw [if_pos rfl, h.line]
      cases declarations.find? (·.name = d.name) <;> simp
    · rw [if_neg hname, h.line]
      simp [Ne.symm hname]
  · intro name
    rw [get?_define, List.reverse_concat]
    by_cases hname : name = d.name
    · simp [hname]
    · rw [if_neg hname, h.type]
      simp [Ne.symm hname]

/-- A table has as many names as there are different ones among those declared. -/
theorem Records.size_eq {declarations : List Declaration} (h : table.Records declarations) :
    table.size = (declarations.map Declaration.name).toFinset.card := by
  calc
    table.size = table.names.length := List.length_map _ |>.symm
    _ = table.names.toFinset.card := (List.toFinset_card_of_nodup h.nodup).symm
    _ = (declarations.map Declaration.name).toFinset.card := by
      apply congrArg
      ext name
      rw [List.mem_toFinset, List.mem_toFinset, h.names, List.mem_eraseDups]

theorem records_ofDeclarations (declarations : List Declaration) :
    (ofDeclarations declarations).Records declarations := by
  induction declarations using List.reverseRecOn with
  | nil => exact .empty
  | append_singleton declarations d ih =>
    unfold ofDeclarations
    rw [List.foldl_concat]
    exact ih.define d

end SymbolTable

/-- Declarations build a map that keeps the order of the names. The names in order are those of the map,
each once; a name stands where it was first declared, with the line of that declaration and the type of
the last; and a name that is declared again keeps its place and line, as all other entries stay as they
are. The table that keeps the entries in one list has the same ones. -/
theorem declarations_build_map (declarations : List Declaration) :
    let indexed := IndexedTable.ofDeclarations declarations
    let table := SymbolTable.ofDeclarations declarations
    (indexed.order.Nodup ∧ indexed.order.Perm indexed.symbols.keys ∧
      indexed.entries.map Prod.fst = indexed.order ∧
      indexed.size = (declarations.map Declaration.name).toFinset.card) ∧
    (indexed.order = (declarations.map Declaration.name).eraseDups ∧
      ∀ name, (indexed.get? name).map Symbol.line =
          (declarations.find? (·.name = name)).map Declaration.line ∧
        (indexed.get? name).map Symbol.type =
          (declarations.reverse.find? (·.name = name)).map Declaration.type) ∧
    (∀ name symbol, (name, symbol) ∈ indexed.entries ↔ indexed.get? name = some symbol) ∧
    (∀ name, indexed.get? name = none ↔ name ∉ declarations.map Declaration.name) ∧
    (∀ name ∈ indexed.order, ∀ type line,
      (indexed.define name type line).order = indexed.order ∧
      (indexed.define name type line).entries = indexed.entries.map fun (other, symbol) ↦
        (other, if other = name then { symbol with type } else symbol)) ∧
    indexed.entries = table.entries ∧ (∀ name, indexed.get? name = table.get? name) ∧
      indexed.size = table.size ∧ indexed.isEmpty = table.isEmpty := by
  intro indexed table
  have hindexed : indexed.Represents table := IndexedTable.represents_ofDeclarations declarations
  have htable : table.Records declarations := SymbolTable.records_ofDeclarations declarations
  have hentries : indexed.entries = table.entries := hindexed.entries_eq htable.nodup
  have hnodup : indexed.order.Nodup := hindexed.order ▸ htable.nodup
  have horder : indexed.order = (declarations.map Declaration.name).eraseDups :=
    hindexed.order.trans htable.names
  refine ⟨⟨hnodup, hindexed.perm_keys htable.nodup, ?_, hindexed.size_eq.trans htable.size_eq⟩,
    ⟨horder, fun name ↦ ?_⟩, fun name symbol ↦ ?_, fun name ↦ ?_, fun name hname type line ↦ ?_,
    hentries, hindexed.symbols, hindexed.size_eq, hindexed.isEmpty_eq⟩
  · rw [hentries, hindexed.order]
    rfl
  · rw [hindexed.symbols]
    exact ⟨htable.line name, htable.type name⟩
  · rw [hentries, hindexed.symbols]
    exact SymbolTable.mem_entries_iff htable.nodup
  · rw [hindexed.symbols, SymbolTable.get?_eq_none_iff, htable.names, List.mem_eraseDups]
  · have hdefined := hindexed.define name type line
    have hdeclared : name ∈ table.names := hindexed.order ▸ hname
    constructor
    · rw [hdefined.order, SymbolTable.names_define, if_pos hdeclared, hindexed.order]
    · rw [hdefined.entries_eq (SymbolTable.nodup_names_define htable.nodup name type line), hentries]
      exact SymbolTable.entries_define htable.nodup hdeclared type line

end StraightLine
