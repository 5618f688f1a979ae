import SourceAtlas.Proofs.SortedLists
import SourceAtlas.Symbol.Basic

/-! Symbol tables as finite maps from ids. A table that is merged from a list holds the first symbol of
each id, and where the ids of the list are distinct it holds the whole list, in whatever order the
list was. -/
namespace SourceAtlas.MergedSymbols
open SortedLists

/-- Every id occurs once, and the symbols stand in the order of their ids. -/
def Ordered (table : SymbolTable) : Prop :=
  Increasing (·.id) table.symbols

/-- Looking up an id finds the one symbol that has it. -/
theorem get_eq_some_iff {table : SymbolTable} (ordered : Ordered table) (id : String)
    (symbol : Symbol) :
    table.get? id = some symbol ↔ symbol ∈ table.symbols ∧ symbol.id = id := by
  constructor
  · intro found
    exact ⟨List.mem_of_find?_eq_some found, by simpa using List.find?_some found⟩
  · rintro ⟨member, rfl⟩
    cases found : table.get? symbol.id with
    | none =>
      have absent := List.find?_eq_none.mp found symbol member
      simp at absent
    | some other =>
      have same : other.id = symbol.id := by simpa using List.find?_some found
      rw [increasing_key_injective ordered (List.mem_of_find?_eq_some found) member same]

theorem contains_iff (table : SymbolTable) (id : String) :
    table.contains id = true ↔ ∃ symbol ∈ table.symbols, symbol.id = id := by
  simp [SymbolTable.contains]

theorem contains_iff_mem_ids (table : SymbolTable) (id : String) :
    table.contains id = true ↔ id ∈ table.ids := by
  simp [SymbolTable.contains, SymbolTable.ids]

theorem ids_nodup {table : SymbolTable} (ordered : Ordered table) : table.ids.Nodup := by
  refine List.pairwise_map.mpr (List.Pairwise.imp ?_ ordered)
  intro a b less
  exact less.ne

private theorem fold_firsts (symbols : List Symbol) (table : SymbolTable)
    (ordered : Ordered table) :
    Ordered (symbols.foldl SymbolTable.addNew table) ∧
      ∀ symbol, symbol ∈ (symbols.foldl SymbolTable.addNew table).symbols ↔
        symbol ∈ table.symbols ∨ ((∀ held ∈ table.symbols, held.id ≠ symbol.id) ∧
          symbols.find? (·.id == symbol.id) = some symbol) := by
  induction symbols generalizing table with
  | nil => exact ⟨ordered, by simp⟩
  | cons first rest ih =>
    obtain ⟨laterOrdered, members⟩ := ih (table.addNew first) (insertNew_increasing ordered first)
    refine ⟨laterOrdered, fun symbol => ?_⟩
    have added (held : Symbol) : held ∈ (table.addNew first).symbols ↔
        held ∈ table.symbols ∨ (held = first ∧ ∀ c ∈ table.symbols, c.id ≠ first.id) :=
      mem_insertNew ordered first held
    rw [List.foldl_cons, members, List.find?_cons]
    by_cases same : first.id = symbol.id
    · -- the first symbol of the list settles this id for the table
      simp only [same, beq_self_eq_true, Option.some.injEq]
      constructor
      · rintro (member | ⟨fresh, _⟩)
        · rcases (added symbol).mp member with held | ⟨rfl, fresh⟩
          · exact .inl held
          · exact .inr ⟨fresh, rfl⟩
        · by_cases fits : ∀ c ∈ table.symbols, c.id ≠ first.id
          · exact absurd same (fresh first ((added first).mpr (.inr ⟨rfl, fits⟩)))
          · push Not at fits
            obtain ⟨c, held, equal⟩ := fits
            exact absurd (equal.trans same) (fresh c ((added c).mpr (.inl held)))
      · rintro (held | ⟨fresh, rfl⟩)
        · exact .inl ((added symbol).mpr (.inl held))
        · exact .inl ((added first).mpr (.inr ⟨rfl, fresh⟩))
    · have differs : (first.id == symbol.id) = false := beq_eq_false_iff_ne.mpr same
      simp only [differs]
      constructor
      · rintro (member | ⟨fresh, found⟩)
        · rcases (added symbol).mp member with held | ⟨rfl, _⟩
          · exact .inl held
          · exact absurd rfl same
        · exact .inr ⟨fun held member => fresh held ((added held).mpr (.inl member)), found⟩
      · rintro (held | ⟨fresh, found⟩)
        · exact .inl ((added symbol).mpr (.inl held))
        · refine .inr ⟨fun held member => ?_, found⟩
          rcases (added held).mp member with member | ⟨rfl, _⟩
          · exact fresh held member
          · exact same

theorem ofFirsts_ordered (symbols : List Symbol) : Ordered (SymbolTable.ofFirsts symbols) :=
  (fold_firsts symbols {} List.Pairwise.nil).1

/-- A merged table holds exactly those symbols that come first among the symbols with their id. -/
theorem mem_ofFirsts (symbols : List Symbol) (symbol : Symbol) :
    symbol ∈ (SymbolTable.ofFirsts symbols).symbols ↔
      symbols.find? (·.id == symbol.id) = some symbol := by
  simpa [SymbolTable.ofFirsts] using (fold_firsts symbols {} List.Pairwise.nil).2 symbol

/-- Merging loses no id. -/
theorem ofFirsts_contains {symbols : List Symbol} (member : symbol ∈ symbols) :
    (SymbolTable.ofFirsts symbols).contains symbol.id = true := by
  have present : (symbols.find? (·.id == symbol.id)).isSome :=
    List.find?_isSome.mpr ⟨symbol, member, by simp⟩
  obtain ⟨first, found⟩ := Option.isSome_iff_exists.mp present
  have same : first.id = symbol.id := by simpa using List.find?_some found
  refine (contains_iff _ _).mpr ⟨first, (mem_ofFirsts symbols first).mpr ?_, same⟩
  rw [same]
  exact found

theorem mem_of_mem_ofFirsts {symbols : List Symbol}
    (member : symbol ∈ (SymbolTable.ofFirsts symbols).symbols) : symbol ∈ symbols :=
  List.mem_of_find?_eq_some ((mem_ofFirsts symbols symbol).mp member)

/-- Symbols with distinct ids are merged without loss. -/
theorem ofFirsts_perm {symbols : List Symbol} (distinct : (symbols.map (·.id)).Nodup) :
    (SymbolTable.ofFirsts symbols).symbols.Perm symbols := by
  refine (List.perm_ext_iff_of_nodup (increasing_nodup (ofFirsts_ordered symbols))
    distinct.of_map).mpr ?_
  intro symbol
  refine ⟨mem_of_mem_ofFirsts, fun member => ?_⟩
  obtain ⟨held, inTable, same⟩ := (contains_iff _ _).mp (ofFirsts_contains member)
  rwa [← List.inj_on_of_nodup_map distinct (mem_of_mem_ofFirsts inTable) member same]

/-- A merge of symbols with distinct ids does not depend on their order. -/
theorem ofFirsts_congr {symbols symbols' : List Symbol} (distinct : (symbols.map (·.id)).Nodup)
    (perm : symbols.Perm symbols') :
    SymbolTable.ofFirsts symbols = SymbolTable.ofFirsts symbols' := by
  have distinct' : (symbols'.map (·.id)).Nodup := (perm.map _).nodup_iff.mp distinct
  have members (symbol : Symbol) : symbol ∈ (SymbolTable.ofFirsts symbols).symbols ↔
      symbol ∈ (SymbolTable.ofFirsts symbols').symbols := by
    rw [(ofFirsts_perm distinct).mem_iff, (ofFirsts_perm distinct').mem_iff, perm.mem_iff]
  exact congrArg SymbolTable.mk
    (increasing_unique (ofFirsts_ordered symbols) (ofFirsts_ordered symbols') members)

end SourceAtlas.MergedSymbols
