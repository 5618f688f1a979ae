import SourceAtlas.Lookup
import SourceAtlas.Proofs.MergedSymbols

/-! The tiers of name lookup, said by what they choose and not by how they search: a symbol of the
file itself, one of the least imported file that has it, the least style rule, the least symbol known
everywhere. Lookup in an ordered table finds exactly this symbol. -/
namespace SourceAtlas.LookupTiers
open SortedLists MergedSymbols

/-- The symbol with the least id among those of the table that are accepted. -/
def Least (table : SymbolTable) (accepts : Symbol → Prop) (symbol : Symbol) : Prop :=
  symbol ∈ table.symbols ∧ accepts symbol ∧
    ∀ other ∈ table.symbols, accepts other → symbol.id ≤ other.id

/-- A style rule with this selector. -/
def RuleFor (name : String) (symbol : Symbol) : Prop :=
  symbol.kind = .styleRule ∧ name ∈ Lookup.selectors symbol

/-- A symbol that is known everywhere under this name. -/
def GlobalNamed (name : String) (symbol : Symbol) : Prop :=
  symbol.kind.isGlobal = true ∧ symbol.name = name

/-- The symbol of this name in a file. -/
def InFile (table : SymbolTable) (name file : String) (symbol : Symbol) : Prop :=
  table.get? (file ++ "#" ++ name) = some symbol

/-- The symbol that a bare name refers to in a file that imports some files. A tier counts only when
the tiers before it have nothing of that name. -/
inductive Refers (table : SymbolTable) (imports : String → Prop) (file name : String) :
    Symbol → Prop where
  | own (found : InFile table name file symbol) : Refers table imports file name symbol
  | imported (notOwn : ∀ other, ¬ InFile table name file other) (target : imports path)
      (found : InFile table name path symbol)
      (least : ∀ path' other, imports path' → InFile table name path' other → path ≤ path') :
      Refers table imports file name symbol
  | rule (notOwn : ∀ other, ¬ InFile table name file other)
      (notImported : ∀ path other, imports path → ¬ InFile table name path other)
      (least : Least table (RuleFor name) symbol) : Refers table imports file name symbol
  | anywhere (notOwn : ∀ other, ¬ InFile table name file other)
      (notImported : ∀ path other, imports path → ¬ InFile table name path other)
      (noRule : ∀ other ∈ table.symbols, ¬ RuleFor name other)
      (least : Least table (GlobalNamed name) symbol) : Refers table imports file name symbol

private theorem isRuleFor_iff (name : String) (symbol : Symbol) :
    Lookup.isRuleFor name symbol = true ↔ RuleFor name symbol := by
  simp [Lookup.isRuleFor, RuleFor]

private theorem isGlobal_iff (name : String) (symbol : Symbol) :
    Lookup.isGlobal name symbol = true ↔ GlobalNamed name symbol := by
  simp [Lookup.isGlobal, GlobalNamed]

private theorem find_least {table : SymbolTable} (ordered : Ordered table)
    {accepts : Symbol → Prop} {test : Symbol → Bool}
    (exact : ∀ symbol, test symbol = true ↔ accepts symbol) (symbol : Symbol) :
    table.symbols.find? test = some symbol ↔ Least table accepts symbol := by
  simp only [find_increasing ordered, Least, exact]

private theorem find_none {table : SymbolTable} {accepts : Symbol → Prop} {test : Symbol → Bool}
    (exact : ∀ symbol, test symbol = true ↔ accepts symbol) :
    table.symbols.find? test = none ↔ ∀ other ∈ table.symbols, ¬ accepts other := by
  simp only [List.find?_eq_none, exact]

/-- The least imported file with a symbol of this name. -/
private theorem imported_iff (imports : ResolvedImports) (table : SymbolTable) (file name : String)
    (symbol : Symbol) :
    (imports.importedBy file).findSome? (fun path => table.get? (path ++ "#" ++ name)) =
        some symbol ↔
      ∃ path, path ∈ imports.importedBy file ∧ InFile table name path symbol ∧
        ∀ path' other, path' ∈ imports.importedBy file → InFile table name path' other →
          path ≤ path' := by
  have increasing : Increasing id (imports.importedBy file) := ofTexts_increasing _
  rw [findSome_increasing increasing]
  constructor
  · rintro ⟨path, target, found, least⟩
    exact ⟨path, target, found, fun path' other target' found' =>
      least path' target' (Option.isSome_iff_exists.mpr ⟨other, found'⟩)⟩
  · rintro ⟨path, target, found, least⟩
    refine ⟨path, target, found, fun path' target' hit => ?_⟩
    obtain ⟨other, found'⟩ := Option.isSome_iff_exists.mp hit
    exact least path' other target' found'

private theorem imported_none (imports : ResolvedImports) (table : SymbolTable)
    (file name : String) :
    (imports.importedBy file).findSome? (fun path => table.get? (path ++ "#" ++ name)) = none ↔
      ∀ path other, path ∈ imports.importedBy file → ¬ InFile table name path other := by
  rw [List.findSome?_eq_none_iff]
  constructor
  · intro absent path other target found
    rw [InFile, absent path target] at found
    cases found
  · intro absent path target
    exact Option.eq_none_iff_forall_ne_some.mpr fun other => absent path other target

/-- Lookup in an ordered table finds a symbol exactly when the name, white space around it aside,
refers to it by the tiers. -/
theorem resolve_iff {table : SymbolTable} (ordered : Ordered table) (imports : ResolvedImports)
    (name file : String) (symbol : Symbol) :
    Lookup.resolve table imports name file = some symbol ↔
      Text.trim name ≠ "" ∧
        Refers table (· ∈ imports.importedBy file) file (Text.trim name) symbol := by
  unfold Lookup.resolve
  dsimp only
  split
  · rename_i empty
    have blank : Text.trim name = "" := by simpa using empty
    simp [blank]
  · rename_i filled
    have named : Text.trim name ≠ "" := by simpa using filled
    simp only [ne_eq, named, not_false_eq_true, true_and]
    -- each tier that answers rules out the later constructors, each that fails the earlier ones
    cases own : table.get? (file ++ "#" ++ Text.trim name) with
    | some first =>
      rw [Option.some_or]
      constructor
      · rintro ⟨⟩
        exact .own own
      · intro refers
        cases refers with
        | own found => exact own.symm.trans found
        | imported notOwn => exact absurd own (notOwn first)
        | rule notOwn => exact absurd own (notOwn first)
        | anywhere notOwn => exact absurd own (notOwn first)
    | none =>
      have notOwn : ∀ other, ¬ InFile table (Text.trim name) file other :=
        Option.eq_none_iff_forall_ne_some.mp own
      rw [Option.none_or]
      cases imported : (imports.importedBy file).findSome? fun path =>
          table.get? (path ++ "#" ++ Text.trim name) with
      | some first =>
        obtain ⟨path, target, found, least⟩ := (imported_iff imports table file _ first).mp imported
        rw [Option.some_or]
        constructor
        · rintro ⟨⟩
          exact .imported notOwn target found least
        · intro refers
          cases refers with
          | own found => exact absurd found (notOwn symbol)
          | imported _ target' found' least' =>
            exact imported.symm.trans ((imported_iff imports table file _ symbol).mpr
              ⟨_, target', found', least'⟩)
          | rule _ notImported => exact absurd found (notImported path first target)
          | anywhere _ notImported => exact absurd found (notImported path first target)
      | none =>
        have notImported := (imported_none imports table file _).mp imported
        rw [Option.none_or]
        cases rule : table.symbols.find? (Lookup.isRuleFor (Text.trim name)) with
        | some first =>
          have least := (find_least ordered (isRuleFor_iff _) first).mp rule
          rw [Option.some_or]
          constructor
          · rintro ⟨⟩
            exact .rule notOwn notImported least
          · intro refers
            cases refers with
            | own found => exact absurd found (notOwn symbol)
            | imported _ target found => exact absurd found (notImported _ symbol target)
            | rule _ _ least' =>
              exact rule.symm.trans ((find_least ordered (isRuleFor_iff _) symbol).mpr least')
            | anywhere _ _ noRule => exact absurd least.2.1 (noRule first least.1)
        | none =>
          have noRule := (find_none (isRuleFor_iff _)).mp rule
          rw [Option.none_or, find_least ordered (isGlobal_iff _)]
          constructor
          · exact .anywhere notOwn notImported noRule
          · intro refers
            cases refers with
            | own found => exact absurd found (notOwn symbol)
            | imported _ target found => exact absurd found (notImported _ symbol target)
            | rule _ _ least => exact absurd least.2.1 (noRule symbol least.1)
            | anywhere _ _ _ least => exact least

/-- Lookup finds nothing exactly when the name is blank or no tier has anything of that name. -/
theorem resolve_none_iff (table : SymbolTable) (imports : ResolvedImports) (name file : String) :
    Lookup.resolve table imports name file = none ↔
      Text.trim name = "" ∨
        ((∀ other, ¬ InFile table (Text.trim name) file other) ∧
          (∀ path other, path ∈ imports.importedBy file →
            ¬ InFile table (Text.trim name) path other) ∧
          (∀ other ∈ table.symbols, ¬ RuleFor (Text.trim name) other) ∧
          ∀ other ∈ table.symbols, ¬ GlobalNamed (Text.trim name) other) := by
  unfold Lookup.resolve
  dsimp only
  split
  · rename_i empty
    have blank : Text.trim name = "" := by simpa using empty
    simp [blank]
  · rename_i filled
    have named : Text.trim name ≠ "" := by simpa using filled
    simp only [named, false_or, Option.or_eq_none_iff, imported_none, find_none (isRuleFor_iff _),
      find_none (isGlobal_iff _)]
    exact and_congr_left fun _ => Option.eq_none_iff_forall_ne_some

/-- What a name refers to is a symbol of the table. -/
theorem refers_mem {table : SymbolTable} (refers : Refers table imports file name symbol) :
    symbol ∈ table.symbols := by
  cases refers with
  | own found => exact List.mem_of_find?_eq_some found
  | imported _ _ found => exact List.mem_of_find?_eq_some found
  | rule _ _ least => exact least.1
  | anywhere _ _ _ least => exact least.1

end SourceAtlas.LookupTiers
