import SourceAtlas.Assembly
import SourceAtlas.Proofs.ImportAnswers
import SourceAtlas.Proofs.LookupTiers

/-! Resolving the relations of a project. The edges are said relation by relation: an import leads
to a known file, and any other name leads where the tiers of lookup say, in view of the imports of
all files. The order of the relations plays no part in where one of them leads. -/
namespace SourceAtlas.RelationResolution
open SortedLists MergedSymbols LookupTiers Assembly

variable {table : SymbolTable} {known : KnownFiles} {relations relations' : List Relation}

/-- An import that stands in `file` leads to `target`. -/
def ImportLeads (table : SymbolTable) (known : KnownFiles) (relation : Relation)
    (file target : String) : Prop :=
  relation.kind = .imports ∧ ∃ source language, table.get? relation.fromId = some source ∧
    source.filePath = file ∧ Language.ofPath? file = some language ∧
      Import.resolve language.family file relation.toName known = some target

/-- Which files a file imports, by all the imports of the project. -/
def FileImports (table : SymbolTable) (known : KnownFiles) (relations : List Relation)
    (file target : String) : Prop :=
  ∃ relation ∈ relations, ImportLeads table known relation file target

/-- A name other than that of an import leads to the symbol with the id `target`. -/
def NameLeads (table : SymbolTable) (known : KnownFiles) (relations : List Relation)
    (relation : Relation) (target : String) : Prop :=
  relation.kind ≠ .imports ∧ ∃ source symbol, table.get? relation.fromId = some source ∧
    Text.trim relation.toName ≠ "" ∧
      Refers table (FileImports table known relations source.filePath) source.filePath
        (Text.trim relation.toName) symbol ∧ symbol.id = target

/-- Every known file is a symbol. -/
def Closed (table : SymbolTable) (known : KnownFiles) : Prop :=
  ∀ path ∈ known.paths, table.contains path = true

/-- A listed path is known exactly when it is a symbol. -/
theorem mem_knownFiles (files : List SourceFile) (table : SymbolTable) (path : String) :
    path ∈ (knownFiles files table).paths ↔
      (∃ file ∈ files, file.path = path) ∧ table.contains path = true := by
  rw [knownFiles, KnownFiles.ofList, mem_ofTexts, List.mem_filter, List.mem_map]

theorem knownFiles_closed (files : List SourceFile) (table : SymbolTable) :
    Closed table (knownFiles files table) :=
  fun path member => ((mem_knownFiles files table path).mp member).2

private theorem resolveOne_spec (imported : relation.kind = .imports) (file : String)
    (edge : Edge) :
    ResolvedImports.resolveOne? table known relation = some ⟨file, edge⟩ ↔
      ImportLeads table known relation file edge.toId ∧ table.contains edge.toId = true ∧
        edge = ⟨relation.fromId, edge.toId, .imports⟩ := by
  simp only [ResolvedImports.resolveOne?, Option.bind_eq_bind, Option.bind_eq_some_iff,
    Option.ite_none_right_eq_some]
  constructor
  · rintro ⟨source, found, language, registered, target, resolved, contained, made⟩
    cases made
    exact ⟨⟨imported, source, language, found, rfl, registered, resolved⟩, contained, rfl⟩
  · rintro ⟨⟨-, source, language, found, rfl, registered, resolved⟩, contained, shape⟩
    exact ⟨source, found, language, registered, edge.toId, resolved, contained, by rw [← shape]⟩

/-- Where every known file is a symbol, the target of an import need not be looked up again. -/
private theorem resolveOne_iff (closed : Closed table known) (imported : relation.kind = .imports)
    (file : String) (edge : Edge) :
    ResolvedImports.resolveOne? table known relation = some ⟨file, edge⟩ ↔
      ImportLeads table known relation file edge.toId ∧
        edge = ⟨relation.fromId, edge.toId, .imports⟩ := by
  rw [resolveOne_spec imported]
  constructor
  · rintro ⟨leads, -, shape⟩
    exact ⟨leads, shape⟩
  · rintro ⟨leads, shape⟩
    refine ⟨leads, ?_, shape⟩
    obtain ⟨-, source, language, -, -, -, resolved⟩ := leads
    exact closed edge.toId (ImportTargets.resolve_known resolved).1

private theorem mem_found (found : ResolvedImport) :
    found ∈ (ResolvedImports.ofRelations table relations known).found ↔
      ∃ relation ∈ relations, relation.kind = .imports ∧
        ResolvedImports.resolveOne? table known relation = some found := by
  simp only [ResolvedImports.ofRelations, List.mem_filterMap, List.mem_filter, beq_iff_eq,
    and_assoc]

/-- The imported files of a file are the symbols that its imports lead to, wherever among the
relations these stand and whatever files are known. -/
theorem mem_importedBy_iff (file target : String) :
    target ∈ (ResolvedImports.ofRelations table relations known).importedBy file ↔
      FileImports table known relations file target ∧ table.contains target = true := by
  rw [ResolvedImports.importedBy, mem_ofTexts]
  simp only [List.mem_map, List.mem_filter, mem_found, beq_iff_eq]
  constructor
  · rintro ⟨⟨_, edge⟩, ⟨⟨relation, member, imported, resolved⟩, rfl⟩, rfl⟩
    obtain ⟨leads, contained, -⟩ := (resolveOne_spec imported _ edge).mp resolved
    exact ⟨⟨relation, member, leads⟩, contained⟩
  · rintro ⟨⟨relation, member, leads⟩, contained⟩
    refine ⟨⟨file, relation.fromId, target, .imports⟩, ⟨⟨relation, member, leads.1, ?_⟩, rfl⟩, rfl⟩
    exact (resolveOne_spec leads.1 file _).mpr ⟨leads, contained, rfl⟩

/-- Where every known file is a symbol, the imported files of a file are those that its imports lead
to. -/
theorem mem_importedBy (closed : Closed table known) (file target : String) :
    target ∈ (ResolvedImports.ofRelations table relations known).importedBy file ↔
      FileImports table known relations file target := by
  rw [mem_importedBy_iff]
  refine ⟨And.left, fun imports => ⟨imports, ?_⟩⟩
  obtain ⟨relation, -, -, source, language, -, -, -, resolved⟩ := imports
  exact closed target (ImportTargets.resolve_known resolved).1

/-- The edges of imports. -/
theorem mem_import_edges (closed : Closed table known) (edge : Edge) :
    edge ∈ (ResolvedImports.ofRelations table relations known).edges ↔
      ∃ relation ∈ relations, relation.fromId = edge.fromId ∧ relation.kind.edgeKind = edge.kind ∧
        ∃ file, ImportLeads table known relation file edge.toId := by
  simp only [ResolvedImports.edges, List.mem_map, mem_found]
  constructor
  · rintro ⟨⟨file, edge⟩, ⟨relation, member, imported, resolved⟩, rfl⟩
    obtain ⟨leads, shape⟩ := (resolveOne_iff closed imported file edge).mp resolved
    refine ⟨relation, member, ?_, ?_, file, leads⟩
    · rw [shape]
    · rw [shape, imported]
      rfl
  · rintro ⟨relation, member, source, kind, file, leads⟩
    refine ⟨⟨file, edge⟩, ⟨relation, member, leads.1, ?_⟩, rfl⟩
    refine (resolveOne_iff closed leads.1 file edge).mpr ⟨leads, ?_⟩
    rw [leads.1] at kind
    rw [source, show EdgeKind.imports = edge.kind from kind]

/-- The edge of a relation other than an import. -/
theorem edge_iff (ordered : Ordered table) (closed : Closed table known) (relation : Relation)
    (edge : Edge) :
    Lookup.edge? table (ResolvedImports.ofRelations table relations known) relation = some edge ↔
      relation.fromId = edge.fromId ∧ relation.kind.edgeKind = edge.kind ∧
        NameLeads table known relations relation edge.toId := by
  have imported (file : String) :
      (· ∈ (ResolvedImports.ofRelations table relations known).importedBy file) =
        FileImports table known relations file :=
    funext fun target => propext (mem_importedBy closed file target)
  unfold Lookup.edge?
  by_cases kind : relation.kind = .imports
  · simp [kind, NameLeads]
  · simp only [beq_iff_eq, kind, if_false, Option.bind_eq_some_iff, Option.map_eq_some_iff,
      resolve_iff ordered, imported, NameLeads, ne_eq, not_false_eq_true, true_and]
    constructor
    · rintro ⟨source, found, symbol, ⟨named, refers⟩, rfl⟩
      exact ⟨rfl, rfl, source, symbol, found, named, refers, rfl⟩
    · rintro ⟨start, edgeKind, source, symbol, found, named, refers, target⟩
      refine ⟨source, found, symbol, ⟨named, refers⟩, ?_⟩
      rw [start, edgeKind, target]

/-- The edges handed to the graph are exactly those that some relation leads along. -/
theorem mem_resolveAll (ordered : Ordered table) (closed : Closed table known) (edge : Edge) :
    edge ∈ (resolveAll table relations known).1 ↔
      ∃ relation ∈ relations, relation.fromId = edge.fromId ∧ relation.kind.edgeKind = edge.kind ∧
        ((∃ file, ImportLeads table known relation file edge.toId) ∨
          NameLeads table known relations relation edge.toId) := by
  simp only [resolveAll, List.mem_append, mem_import_edges closed, List.mem_filterMap,
    List.mem_filter, edge_iff ordered closed]
  constructor
  · rintro (⟨relation, member, source, kind, leads⟩ | ⟨relation, ⟨member, -⟩, source, kind, leads⟩)
    · exact ⟨relation, member, source, kind, .inl leads⟩
    · exact ⟨relation, member, source, kind, .inr leads⟩
  · rintro ⟨relation, member, source, kind, leads | leads⟩
    · exact .inl ⟨relation, member, source, kind, leads⟩
    · exact .inr ⟨relation, ⟨member, by simpa using leads.1⟩, source, kind, leads⟩

/-- Both ends of a resolved relation are symbols, so no edge is left dangling. -/
theorem resolveAll_ends (ordered : Ordered table) (closed : Closed table known)
    (member : edge ∈ (resolveAll table relations known).1) :
    edge.fromId ∈ table.ids ∧ edge.toId ∈ table.ids := by
  obtain ⟨relation, -, start, -, leads⟩ := (mem_resolveAll ordered closed edge).mp member
  have held {source : Symbol} (found : table.get? relation.fromId = some source) :
      edge.fromId ∈ table.ids := by
    obtain ⟨present, same⟩ := (get_eq_some_iff ordered _ _).mp found
    exact start ▸ same ▸ List.mem_map_of_mem present
  rcases leads with ⟨file, -, source, language, found, -, -, resolved⟩ |
    ⟨-, source, symbol, found, -, refers, target⟩
  · have listed := (ImportTargets.resolve_known resolved).1
    exact ⟨held found, (contains_iff_mem_ids _ _).mp (closed edge.toId listed)⟩
  · exact ⟨held found, target ▸ List.mem_map_of_mem (refers_mem refers)⟩

private theorem filterMap_counted (f : α → Option β) (l : List α) :
    l.length = (l.filterMap f).length + l.countP fun a => (f a).isNone := by
  induction l with
  | nil => rfl
  | cons a rest ih =>
    cases made : f a with
    | none =>
      simp only [List.filterMap_cons_none made, List.countP_cons, made, Option.isNone_none, if_true,
        List.length_cons]
      omega
    | some b =>
      simp only [List.filterMap_cons_some made, List.countP_cons, made, Option.isNone_some,
        Bool.false_eq_true, if_false, List.length_cons]
      omega

/-- Every relation becomes one edge or is counted as dropped. -/
theorem resolveAll_length (table : SymbolTable) (relations : List Relation) (known : KnownFiles) :
    relations.length =
      (resolveAll table relations known).2 + (resolveAll table relations known).1.length := by
  have kinds : relations.length = (relations.filter (·.kind == .imports)).length +
      (relations.filter (·.kind != .imports)).length :=
    List.length_eq_length_filter_add _
  have imports := filterMap_counted (ResolvedImports.resolveOne? table known)
    (relations.filter (·.kind == .imports))
  have others := filterMap_counted
    (Lookup.edge? table (ResolvedImports.ofRelations table relations known))
    (relations.filter (·.kind != .imports))
  simp only [resolveAll, ResolvedImports.edges, ResolvedImports.ofRelations, List.length_append,
    List.length_map] at others ⊢
  omega

private theorem import_edge_kind
    (member : edge ∈ (ResolvedImports.ofRelations table relations known).edges) :
    edge.kind = .imports := by
  obtain ⟨found, resolved, rfl⟩ := List.mem_map.mp member
  obtain ⟨relation, -, -, made⟩ := (mem_found found).mp resolved
  simp only [ResolvedImports.resolveOne?, Option.bind_eq_bind, Option.bind_eq_some_iff,
    Option.ite_none_right_eq_some] at made
  obtain ⟨source, -, language, -, target, -, -, made⟩ := made
  cases made
  rfl

private theorem name_edge_kind (made : Lookup.edge? table imports relation = some edge) :
    edge.kind ≠ .imports := by
  unfold Lookup.edge? at made
  split at made
  · cases made
  · rename_i other
    obtain ⟨source, -, made⟩ := Option.bind_eq_some_iff.mp made
    obtain ⟨target, -, rfl⟩ := Option.map_eq_some_iff.mp made
    cases kind : relation.kind <;> simp_all [RelationKind.edgeKind]

/-- Imports are resolved before everything else. -/
theorem imports_first (table : SymbolTable) (relations : List Relation) (known : KnownFiles) :
    (resolveAll table relations known).1.Pairwise fun a b =>
      b.kind = .imports → a.kind = .imports := by
  have named : ∀ edge ∈ (relations.filter (·.kind != .imports)).filterMap
      (Lookup.edge? table (ResolvedImports.ofRelations table relations known)),
      edge.kind ≠ .imports := by
    intro edge member
    obtain ⟨relation, -, made⟩ := List.mem_filterMap.mp member
    exact name_edge_kind made
  refine List.pairwise_append.mpr ⟨?_, ?_, ?_⟩
  · refine List.pairwise_of_forall_mem_list ?_
    intro a memberA b _ _
    exact import_edge_kind memberA
  · refine List.pairwise_of_forall_mem_list ?_
    intro a _ b memberB imported
    exact absurd imported (named b memberB)
  · intro a memberA b _ _
    exact import_edge_kind memberA

private theorem importedBy_perm (perm : relations.Perm relations') (file : String) :
    (ResolvedImports.ofRelations table relations known).importedBy file =
      (ResolvedImports.ofRelations table relations' known).importedBy file := by
  refine ofTexts_congr fun text => ?_
  exact (((perm.filter _).filterMap _).filter _ |>.map _).mem_iff

private theorem edge_congr {imports imports' : ResolvedImports}
    (same : ∀ file, imports.importedBy file = imports'.importedBy file) (relation : Relation) :
    Lookup.edge? table imports relation = Lookup.edge? table imports' relation := by
  simp only [Lookup.edge?, Lookup.resolve, same]

/-- The order of the relations changes the order of the edges and nothing else. -/
theorem resolveAll_perm (table : SymbolTable) (known : KnownFiles)
    (perm : relations.Perm relations') :
    (resolveAll table relations known).1.Perm (resolveAll table relations' known).1 ∧
      (resolveAll table relations known).2 = (resolveAll table relations' known).2 := by
  have edges : Lookup.edge? table (ResolvedImports.ofRelations table relations known) =
      Lookup.edge? table (ResolvedImports.ofRelations table relations' known) :=
    funext fun relation => edge_congr (importedBy_perm perm) relation
  have imports := perm.filter fun relation => relation.kind == .imports
  have others := perm.filter fun relation => relation.kind != .imports
  constructor
  · simp only [resolveAll, edges]
    exact List.Perm.append ((imports.filterMap _).map _) (others.filterMap _)
  · simp only [resolveAll, edges]
    exact congrArg₂ (· + ·) (imports.countP_eq _) (others.countP_eq _)

end SourceAtlas.RelationResolution
