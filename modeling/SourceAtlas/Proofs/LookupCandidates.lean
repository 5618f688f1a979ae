import SourceAtlas.Proofs.ByteOrder
import SourceAtlas.Proofs.RelationResolution
import SourceAtlas.Proofs.SplitTexts

/-! Name lookup as a choice among candidates. A name in a file has candidates in four tiers, each with
a key; lookup answers with the candidate of the lowest tier that has the least key there, and with
nothing when there is none. The tiers are said by what they hold, without tables, splits or
searches. -/
namespace SourceAtlas.LookupCandidates
open SortedLists MergedSymbols LookupTiers RelationResolution ByteOrder SplitTexts

/-- A name is one of the selectors of a style rule: not empty, and a trimmed piece between the commas
of its selector list, or of its own name when it has no such list. -/
def Selects (rule : Symbol) (name : String) : Prop :=
  name ≠ "" ∧ ∃ pieces, Pieces ',' (rule.selector.getD rule.name).toList pieces ∧
    ∃ piece ∈ pieces, Chars.trim piece = name.toList

/-- The kinds of symbols that a name may refer to from any file. -/
def globalKinds : List SymbolKind :=
  [.classType, .function, .interface, .struct, .typeAlias, .enum]

/-- What a bare name in a file may refer to, with its tier and its key within the tier: a symbol of
the file, a symbol of a file that it imports, a style rule, or a symbol that is known everywhere. -/
inductive Candidate (table : SymbolTable) (imports : String → Prop) (file name : String) :
    Nat → String → Symbol → Prop where
  | own (held : symbol ∈ table.symbols) (id : symbol.id = file ++ "#" ++ name) :
      Candidate table imports file name 0 file symbol
  | imported (target : imports path) (held : symbol ∈ table.symbols)
      (id : symbol.id = path ++ "#" ++ name) : Candidate table imports file name 1 path symbol
  | rule (held : symbol ∈ table.symbols) (kind : symbol.kind = .styleRule)
      (selects : Selects symbol name) : Candidate table imports file name 2 symbol.id symbol
  | anywhere (held : symbol ∈ table.symbols) (kind : symbol.kind ∈ globalKinds)
      (named : symbol.name = name) : Candidate table imports file name 3 symbol.id symbol

/-- The first candidate: of the lowest tier, and of the least key there, byte by byte. -/
def First (table : SymbolTable) (imports : String → Prop) (file name : String) (symbol : Symbol) :
    Prop :=
  ∃ tier key, Candidate table imports file name tier key symbol ∧
    ∀ tier' key' other, Candidate table imports file name tier' key' other →
      tier < tier' ∨ (tier = tier' ∧ bytes key ≤ bytes key')

/-- The files that a file imports: those that its imports lead to and that are symbols. -/
def Imported (table : SymbolTable) (known : KnownFiles) (relations : List Relation)
    (file target : String) : Prop :=
  FileImports table known relations file target ∧ table.contains target = true

theorem selects_iff (rule : Symbol) (name : String) :
    name ∈ Lookup.selectors rule ↔ Selects rule name := by
  simp only [Lookup.selectors, List.mem_map, List.mem_filter, Selects]
  constructor
  · rintro ⟨part, ⟨⟨piece, member, rfl⟩, filled⟩, rfl⟩
    refine ⟨by simpa using filled, _, (splitOn_iff _ _ _).mp rfl, piece, member, ?_⟩
    rw [String.toList_ofList]
  · rintro ⟨filled, pieces, split, piece, member, trimmed⟩
    rw [← (splitOn_iff _ _ _).mpr split] at member
    refine ⟨name.toList, ⟨⟨piece, member, trimmed⟩, by simpa using filled⟩, String.ofList_toList⟩

theorem isGlobal_iff_mem (kind : SymbolKind) : kind.isGlobal = true ↔ kind ∈ globalKinds := by
  cases kind <;> decide

section
variable {table : SymbolTable} {imports : String → Prop} {file name : String}

theorem inFile_iff (ordered : Ordered table) (path : String) (symbol : Symbol) :
    InFile table name path symbol ↔ symbol ∈ table.symbols ∧ symbol.id = path ++ "#" ++ name :=
  get_eq_some_iff ordered _ symbol

theorem ruleFor_iff (symbol : Symbol) :
    RuleFor name symbol ↔ symbol.kind = .styleRule ∧ Selects symbol name := by
  rw [RuleFor, selects_iff]

theorem globalNamed_iff (symbol : Symbol) :
    GlobalNamed name symbol ↔ symbol.kind ∈ globalKinds ∧ symbol.name = name := by
  rw [GlobalNamed, isGlobal_iff_mem]

section
variable (ordered : Ordered table) (notOwn : ∀ other, ¬ InFile table name file other)
include ordered notOwn

private theorem above_own (candidate : Candidate table imports file name tier key symbol) :
    1 ≤ tier := by
  cases candidate with
  | own held id => exact absurd ((inFile_iff ordered file symbol).mpr ⟨held, id⟩) (notOwn symbol)
  | imported => decide
  | rule => decide
  | anywhere => decide

variable (notImported : ∀ path other, imports path → ¬ InFile table name path other)
include notImported

private theorem above_imported (candidate : Candidate table imports file name tier key symbol) :
    2 ≤ tier := by
  have above := above_own ordered notOwn candidate
  cases candidate with
  | own => omega
  | imported target held id =>
    exact absurd ((inFile_iff ordered key symbol).mpr ⟨held, id⟩) (notImported key symbol target)
  | rule => decide
  | anywhere => decide

private theorem above_rules (noRule : ∀ other ∈ table.symbols, ¬ RuleFor name other)
    (candidate : Candidate table imports file name tier key symbol) : 3 ≤ tier := by
  have above := above_imported ordered notOwn notImported candidate
  cases candidate with
  | own => omega
  | imported => omega
  | rule held kind selects =>
    exact absurd ((ruleFor_iff symbol).mpr ⟨kind, selects⟩) (noRule symbol held)
  | anywhere => decide

end

/-- What the tiers refer to is the first candidate. -/
theorem refers_first (ordered : Ordered table) (refers : Refers table imports file name symbol) :
    First table imports file name symbol := by
  cases refers with
  | own found =>
    obtain ⟨held, id⟩ := (inFile_iff ordered file symbol).mp found
    refine ⟨0, file, .own held id, ?_⟩
    intro tier key other candidate
    rcases Nat.eq_zero_or_pos tier with rfl | above
    · cases candidate
      exact .inr ⟨rfl, List.le_refl _⟩
    · exact .inl above
  | imported notOwn target found least =>
    obtain ⟨held, id⟩ := (inFile_iff ordered _ symbol).mp found
    refine ⟨1, _, .imported target held id, ?_⟩
    intro tier key other candidate
    rcases Nat.eq_or_lt_of_le (above_own ordered notOwn candidate) with rfl | above
    · cases candidate with
      | imported target' held' id' =>
        have before := least key other target' ((inFile_iff ordered key other).mpr ⟨held', id'⟩)
        exact .inr ⟨rfl, (le_iff_bytes _ _).mp before⟩
    · exact .inl above
  | rule notOwn notImported least =>
    obtain ⟨held, accepted, least⟩ := least
    obtain ⟨kind, selects⟩ := (ruleFor_iff symbol).mp accepted
    refine ⟨2, symbol.id, .rule held kind selects, ?_⟩
    intro tier key other candidate
    rcases Nat.eq_or_lt_of_le (above_imported ordered notOwn notImported candidate) with rfl | above
    · cases candidate with
      | rule held' kind' selects' =>
        have before := least other held' ((ruleFor_iff other).mpr ⟨kind', selects'⟩)
        exact .inr ⟨rfl, (le_iff_bytes _ _).mp before⟩
    · exact .inl above
  | anywhere notOwn notImported noRule least =>
    obtain ⟨held, accepted, least⟩ := least
    obtain ⟨kind, named⟩ := (globalNamed_iff symbol).mp accepted
    refine ⟨3, symbol.id, .anywhere held kind named, ?_⟩
    intro tier key other candidate
    have above := above_rules ordered notOwn notImported noRule candidate
    cases candidate with
    | own => omega
    | imported => omega
    | rule => omega
    | anywhere held' kind' named' =>
      have before := least other held' ((globalNamed_iff other).mpr ⟨kind', named'⟩)
      exact .inr ⟨rfl, (le_iff_bytes _ _).mp before⟩

/-- The first candidate is what the tiers refer to. -/
theorem first_refers (ordered : Ordered table) (first : First table imports file name symbol) :
    Refers table imports file name symbol := by
  obtain ⟨tier, key, candidate, least⟩ := first
  -- a tier below that of the first candidate has nothing to offer
  have notOwn (above : 0 < tier) (other : Symbol) : ¬ InFile table name file other := by
    intro found
    obtain ⟨held, id⟩ := (inFile_iff ordered file other).mp found
    have := least 0 file other (.own held id)
    omega
  have notImported (above : 1 < tier) (path : String) (other : Symbol) (target : imports path) :
      ¬ InFile table name path other := by
    intro found
    obtain ⟨held, id⟩ := (inFile_iff ordered path other).mp found
    have := least 1 path other (.imported target held id)
    omega
  have noRule (above : 2 < tier) (other : Symbol) (held : other ∈ table.symbols) :
      ¬ RuleFor name other := by
    intro accepted
    obtain ⟨kind, selects⟩ := (ruleFor_iff other).mp accepted
    have := least 2 other.id other (.rule held kind selects)
    omega
  cases candidate with
  | own held id => exact .own ((inFile_iff ordered file symbol).mpr ⟨held, id⟩)
  | imported target held id =>
    refine .imported (notOwn (by decide)) target ((inFile_iff ordered _ symbol).mpr ⟨held, id⟩) ?_
    intro path other target' found
    obtain ⟨held', id'⟩ := (inFile_iff ordered path other).mp found
    rcases least 1 path other (.imported target' held' id') with less | ⟨-, before⟩
    · omega
    · exact (le_iff_bytes _ _).mpr before
  | rule held kind selects =>
    refine .rule (notOwn (by decide)) (notImported (by decide))
      ⟨held, (ruleFor_iff symbol).mpr ⟨kind, selects⟩, ?_⟩
    intro other held' accepted
    obtain ⟨kind', selects'⟩ := (ruleFor_iff other).mp accepted
    rcases least 2 other.id other (.rule held' kind' selects') with less | ⟨-, before⟩
    · omega
    · exact (le_iff_bytes _ _).mpr before
  | anywhere held kind named =>
    refine .anywhere (notOwn (by decide)) (notImported (by decide)) (noRule (by decide))
      ⟨held, (globalNamed_iff symbol).mpr ⟨kind, named⟩, ?_⟩
    intro other held' accepted
    obtain ⟨kind', named'⟩ := (globalNamed_iff other).mp accepted
    rcases least 3 other.id other (.anywhere held' kind' named') with less | ⟨-, before⟩
    · omega
    · exact (le_iff_bytes _ _).mpr before

/-- There is no candidate exactly when no tier has anything of the name. -/
theorem no_candidate_iff (ordered : Ordered table) :
    (∀ tier key symbol, ¬ Candidate table imports file name tier key symbol) ↔
      (∀ other, ¬ InFile table name file other) ∧
        (∀ path other, imports path → ¬ InFile table name path other) ∧
        (∀ other ∈ table.symbols, ¬ RuleFor name other) ∧
        ∀ other ∈ table.symbols, ¬ GlobalNamed name other := by
  constructor
  · intro absent
    refine ⟨?_, ?_, ?_, ?_⟩
    · intro other found
      obtain ⟨held, id⟩ := (inFile_iff ordered file other).mp found
      exact absent 0 file other (.own held id)
    · intro path other target found
      obtain ⟨held, id⟩ := (inFile_iff ordered path other).mp found
      exact absent 1 path other (.imported target held id)
    · intro other held accepted
      obtain ⟨kind, selects⟩ := (ruleFor_iff other).mp accepted
      exact absent 2 other.id other (.rule held kind selects)
    · intro other held accepted
      obtain ⟨kind, named⟩ := (globalNamed_iff other).mp accepted
      exact absent 3 other.id other (.anywhere held kind named)
  · rintro ⟨notOwn, notImported, noRule, noGlobal⟩ tier key symbol candidate
    have above := above_rules ordered notOwn notImported noRule candidate
    cases candidate with
    | own => omega
    | imported => omega
    | rule => omega
    | anywhere held kind named =>
      exact noGlobal symbol held ((globalNamed_iff symbol).mpr ⟨kind, named⟩)

end

/-- Lookup in a table with distinct ids, after any imports of any relations were resolved against any
known files, answers with the first candidate of the trimmed name. It has no answer exactly when
nothing is left of the name or there is no candidate. -/
theorem lookup_finds_first {table : SymbolTable} (ordered : Ordered table)
    (relations : List Relation) (known : KnownFiles) (name file : String) :
    (∀ symbol,
      Lookup.resolve table (.ofRelations table relations known) name file = some symbol ↔
        Text.trim name ≠ "" ∧
          First table (Imported table known relations file) file (Text.trim name) symbol) ∧
    (Lookup.resolve table (.ofRelations table relations known) name file = none ↔
      Text.trim name = "" ∨ ∀ tier key symbol,
        ¬ Candidate table (Imported table known relations file) file (Text.trim name) tier key
          symbol) := by
  have imported : (· ∈ (ResolvedImports.ofRelations table relations known).importedBy file) =
      Imported table known relations file :=
    funext fun target => propext (mem_importedBy_iff file target)
  constructor
  · intro symbol
    rw [resolve_iff ordered, imported]
    exact and_congr_right fun _ => ⟨refers_first ordered, first_refers ordered⟩
  · rw [resolve_none_iff, no_candidate_iff ordered, ← imported]

/-- A function of this name in a file. -/
def functionIn (path name : String) : Symbol :=
  { id := path ++ "#" ++ name, kind := .function, name, filePath := path, startLine := 1, endLine := 1 }

/-- Three files, two of which declare a function of the same name. -/
def sharedName : SymbolTable :=
  .ofFirsts [.ofFile "a.ts" "typescript" 3, .ofFile "b.ts" "typescript" 3,
    .ofFile "z.ts" "typescript" 3, functionIn "b.ts" "shared", functionIn "z.ts" "shared"]

/-- The function of the imported file is found, although the other one has the smaller id. -/
theorem imported_function_first :
    Ordered sharedName ∧
      First sharedName (Imported sharedName (.ofList ["a.ts", "b.ts", "z.ts"])
        [⟨"a.ts", "./z", .imports⟩] "a.ts") "a.ts" (Text.trim " shared ")
          (functionIn "z.ts" "shared") := by
  have ordered : Ordered sharedName := ofFirsts_ordered _
  have found := ((lookup_finds_first ordered [⟨"a.ts", "./z", .imports⟩]
    (.ofList ["a.ts", "b.ts", "z.ts"]) " shared " "a.ts").1 (functionIn "z.ts" "shared")).mp
      (by decide +kernel)
  exact ⟨ordered, found.2⟩

end SourceAtlas.LookupCandidates
