import SourceAtlas.Proofs.GraphEdges
import SourceAtlas.Proofs.RelationResolution
import SourceAtlas.Proofs.WorkerSchedules

/-! The edges of an assembled graph are the resolvable relations of its files, no more and no fewer:
building the graph drops loops and repetitions only, because both ends of a resolved relation are
symbols already. Nothing is asked of the outcomes of the files, so this also holds where extraction
failed on some of them. -/
namespace SourceAtlas.AssemblyEdges
open SortedLists MergedSymbols RelationResolution Assembly WorkerSchedules

section
variable (work : SourceFile → Outcome) (files : List SourceFile)

/-- What the files contribute, in the order of the files. -/
def contributions : List Extraction :=
  extractions (files.map work)

/-- The merged symbols of some files. -/
def symbolsOf : SymbolTable :=
  merge (contributions work files)

/-- All relations found in some files. -/
def relationsOf : List Relation :=
  (contributions work files).flatMap (·.relations)

/-- The paths of some files that are symbols. -/
def knownOf : KnownFiles :=
  knownFiles files (symbolsOf work files)

/-- An assembled graph, however many workers there were: the merged symbols, and the edges of the
resolved relations. -/
theorem runWith_graph (workers : Nat) :
    (runWith work files workers).graph = Graph.build (symbolsOf work files)
      (resolveAll (symbolsOf work files) (relationsOf work files) (knownOf work files)).1 := by
  rw [runWith_in_turn]
  rfl

/-- The books of an assembly, however many workers there were. -/
theorem runWith_stats (workers : Nat) :
    (runWith work files workers).stats = {
      filesSeen := files.length
      filesExtracted := (contributions work files).length
      filesSkipped := (runWith work files workers).stats.filesSkipped
      filesFailed := (files.map work).countP Outcome.isFailed
      nodes := (runWith work files workers).graph.table.symbols.length
      edges := (runWith work files workers).graph.edges.length
      relationsDropped :=
        (resolveAll (symbolsOf work files) (relationsOf work files) (knownOf work files)).2 } := by
  rw [runWith_in_turn]
  rfl

theorem symbols_ordered : Ordered (symbolsOf work files) :=
  ofFirsts_ordered _

theorem known_closed : Closed (symbolsOf work files) (knownOf work files) :=
  knownFiles_closed files (symbolsOf work files)

theorem runWith_edges_nodup (workers : Nat) :
    (runWith work files workers).graph.edges.Nodup := by
  rw [runWith_graph]
  exact GraphEdges.build_nodup _ _

/-- The graph keeps of the resolved relations all but the loops. -/
theorem mem_runWith_edges (workers : Nat) (edge : Edge) :
    edge ∈ (runWith work files workers).graph.edges ↔ edge.fromId ≠ edge.toId ∧
      edge ∈ (resolveAll (symbolsOf work files) (relationsOf work files) (knownOf work files)).1 := by
  rw [runWith_graph, GraphEdges.mem_build]
  constructor
  · rintro ⟨member, different, -⟩
    exact ⟨different, member⟩
  · rintro ⟨different, member⟩
    exact ⟨member, different,
      resolveAll_ends (symbols_ordered work files) (known_closed work files) member⟩

end

theorem extraction_iff (result : Outcome) (extraction : Extraction) :
    result.extraction? = some extraction ↔ result = .extracted extraction := by
  cases result <;> simp [Outcome.extraction?]

theorem mem_contributions :
    extraction ∈ contributions work files ↔ ∃ file ∈ files, work file = .extracted extraction := by
  simp only [contributions, extractions, List.filterMap_map, List.mem_filterMap,
    Function.comp_apply, extraction_iff]

/-- Merging keeps a symbol for every id that a file contributes. -/
theorem contributed_id (member : extraction ∈ contributions work files)
    (held : symbol ∈ extraction.symbols) : (symbolsOf work files).contains symbol.id = true :=
  ofFirsts_contains (List.mem_flatMap.mpr ⟨extraction, member, held⟩)

end SourceAtlas.AssemblyEdges
