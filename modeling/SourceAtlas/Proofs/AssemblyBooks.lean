import SourceAtlas.Proofs.SupportedFiles

/-! The books of an assembly. Every file that was seen is extracted, skipped or failed; every relation
of the extracted files is dropped or handed to the graph as an edge; and every edge that was handed
over is in the graph, is a loop, or repeats an earlier one. None is lost for want of an end. -/
namespace SourceAtlas.AssemblyBooks
open MergedSymbols RelationResolution GraphEdges Assembly

/-- The merged symbols of some outcomes. -/
def mergedSymbols (results : List Outcome) : SymbolTable :=
  merge (extractions results)

/-- All relations of the extracted files. -/
def foundRelations (results : List Outcome) : List Relation :=
  (extractions results).flatMap (·.relations)

/-- The edges that the assembly hands to the graph: those of all resolved relations. -/
def handed (files : List SourceFile) (results : List Outcome) : List Edge :=
  (resolveAll (mergedSymbols results) (foundRelations results)
    (knownFiles files (mergedSymbols results))).1

/-- The books add up for what was assembled from some files with these outcomes. -/
structure Balanced (files : List SourceFile) (results : List Outcome) (assembled : Assembled) :
    Prop where
  seen : assembled.stats.filesSeen = files.length
  extracted : assembled.stats.filesExtracted = (extractions results).length
  accounted : assembled.stats.filesSeen = assembled.stats.filesExtracted +
    assembled.stats.filesSkipped + assembled.stats.filesFailed
  relations : (foundRelations results).length =
    assembled.stats.relationsDropped + (handed files results).length
  built : assembled.graph = Graph.build (mergedSymbols results) (handed files results)
  ends : ∀ edge ∈ handed files results, edge.fromId ∈ (mergedSymbols results).ids ∧
    edge.toId ∈ (mergedSymbols results).ids
  kept : assembled.graph.edges = firsts (fun edge => edge.fromId ≠ edge.toId) (handed files results)
  edges : (handed files results).length = assembled.stats.edges +
    (handed files results).countP (fun edge => edge.fromId = edge.toId) +
      (repeats (fun edge => edge.fromId ≠ edge.toId) (handed files results)).length

/-- Each outcome is counted once. -/
theorem outcomes_counted (results : List Outcome) :
    results.length = (extractions results).length + results.countP Outcome.isUnsupported +
      results.countP Outcome.isFailed := by
  induction results with
  | nil => rfl
  | cons result rest ih =>
    rw [extractions] at ih ⊢
    simp only [List.length_cons, List.filterMap_cons, List.countP_cons]
    cases result with
    | extracted extraction =>
      simp only [Outcome.extraction?, Outcome.isUnsupported, Outcome.isFailed, List.length_cons,
        Bool.false_eq_true, if_false]
      omega
    | unsupported =>
      simp only [Outcome.extraction?, Outcome.isUnsupported, Outcome.isFailed, Bool.false_eq_true,
        if_true, if_false]
      omega
    | failed =>
      simp only [Outcome.extraction?, Outcome.isUnsupported, Outcome.isFailed, Bool.false_eq_true,
        if_true, if_false]
      omega

/-- Both ends of every edge that is handed over are symbols, whatever became of the files. -/
theorem handed_ends (member : edge ∈ handed files results) :
    edge.fromId ∈ (mergedSymbols results).ids ∧ edge.toId ∈ (mergedSymbols results).ids :=
  resolveAll_ends (ofFirsts_ordered _) (knownFiles_closed files _) member

/-- Of the edges handed over, the graph drops loops and repetitions only. -/
theorem handed_kept (files : List SourceFile) (results : List Outcome) :
    (Graph.build (mergedSymbols results) (handed files results)).edges =
      firsts (fun edge => edge.fromId ≠ edge.toId) (handed files results) := by
  rw [build_firsts]
  refine firsts_congr _ _ fun edge member => ?_
  exact ⟨And.left, fun different => ⟨different, handed_ends member⟩⟩

/-- The books add up for every list of outcomes that has one for each file. -/
theorem ofOutcomes_balanced {files : List SourceFile} {results : List Outcome}
    (oneEach : results.length = files.length) : Balanced files results (ofOutcomes files results) where
  seen := rfl
  extracted := rfl
  accounted := oneEach.symm.trans (outcomes_counted results)
  relations := resolveAll_length _ _ _
  built := rfl
  ends := fun _ => handed_ends
  kept := handed_kept files results
  edges := by
    have counted := firsts_counted (fun edge => edge.fromId ≠ edge.toId) (handed files results)
    rw [← handed_kept] at counted
    simp only [not_not] at counted
    show _ = (Graph.build (mergedSymbols results) (handed files results)).edges.length + _ + _
    omega

/-- Nothing is lost in the books, whatever the files are and however many workers there were; and the
books would add up just the same if the extraction of some of the files had failed. -/
theorem books_balance (files : List SourceFile) :
    (∀ workers, Balanced files (files.map outcome) (run files workers)) ∧
    ∀ results, results.length = files.length → Balanced files results (ofOutcomes files results) := by
  refine ⟨fun workers => ?_, fun results => ofOutcomes_balanced⟩
  rw [run, WorkerSchedules.runWith_in_turn]
  exact ofOutcomes_balanced (List.length_map _)

open SupportedFiles in
/-- The books of three files of which one failed: the import of that file is dropped. -/
theorem failed_file_balances :
    Balanced [emptyModule, importingModule, plainNotes]
        [.failed, outcome importingModule, .unsupported]
        (ofOutcomes [emptyModule, importingModule, plainNotes]
          [.failed, outcome importingModule, .unsupported]) ∧
      (ofOutcomes [emptyModule, importingModule, plainNotes]
        [.failed, outcome importingModule, .unsupported]).stats =
          { filesSeen := 3, filesExtracted := 1, filesSkipped := 1, filesFailed := 1, nodes := 1,
            edges := 0, relationsDropped := 1 } :=
  ⟨(books_balance _).2 _ rfl, by decide +kernel⟩

end SourceAtlas.AssemblyBooks

/-! Where the edges of imports lead. A resolved import ends at a known file that is not the file it
stands in, and in a graph the known files are paths of its input; so no import leads out of the
project, to a symbol inside a file, or back to where it came from. -/
namespace SourceAtlas.ImportEdges
open MergedSymbols RelationResolution Assembly

variable {table : SymbolTable} {known : KnownFiles} {relations : List Relation}

private theorem edgeKind_imports (kind : RelationKind) :
    kind.edgeKind = .imports ↔ kind = .imports := by
  cases kind <;> simp [RelationKind.edgeKind]

/-- An edge of kind import comes from an import, and leads where that leads. -/
theorem import_edge_leads (ordered : Ordered table) (closed : Closed table known)
    (member : edge ∈ (resolveAll table relations known).1) (imported : edge.kind = .imports) :
    ∃ source language, table.get? edge.fromId = some source ∧
      ∃ spec, Import.resolve language source.filePath spec known = some edge.toId := by
  obtain ⟨relation, -, start, kind, leads⟩ := (mem_resolveAll ordered closed edge).mp member
  rcases leads with ⟨file, -, source, language, found, rfl, -, resolved⟩ | ⟨other, -⟩
  · exact ⟨source, language.family, start ▸ found, relation.toName, resolved⟩
  · exact absurd ((edgeKind_imports _).mp (kind.trans imported)) other

/-- An import resolves to a known file other than the one it stands in, or not at all, whatever the
family, the file, the text and the known files are. So every edge of kind import leads to the path of
an input file, and that is not the file of its source, whatever became of the files. -/
theorem imports_lead_to_other_files :
    (∀ family file spec known, Import.resolve family file spec known = none ∨
      ∃ target ∈ known.paths, target ≠ file ∧
        Import.resolve family file spec known = some target) ∧
    ∀ files results, ∀ edge ∈ (ofOutcomes files results).graph.edges, edge.kind = .imports →
      (∃ file ∈ files, file.path = edge.toId) ∧
        ∃ source, (ofOutcomes files results).graph.symbol? edge.fromId = some source ∧
          source.filePath ≠ edge.toId := by
  constructor
  · intro family file spec known
    cases resolved : Import.resolve family file spec known with
    | none => exact .inl rfl
    | some target =>
      obtain ⟨listed, other⟩ := ImportTargets.resolve_known resolved
      exact .inr ⟨target, listed, other, rfl⟩
  · intro files results edge member imported
    have handed := ((GraphEdges.mem_build _ _ edge).mp member).1
    obtain ⟨source, family, found, spec, resolved⟩ :=
      import_edge_leads (ofFirsts_ordered _) (knownFiles_closed files _) handed imported
    obtain ⟨listed, other⟩ := ImportTargets.resolve_known resolved
    exact ⟨((mem_knownFiles files _ _).mp listed).1, source, found, other.symm⟩

open SupportedFiles in
/-- The import of one module by another. -/
theorem module_import_leads :
    (⟨"c.py", "a.py", .imports⟩ : Edge) ∈ (run [emptyModule, importingModule] 1).graph.edges ∧
      (∃ file ∈ [emptyModule, importingModule], file.path = "a.py") ∧
        ∃ source, (run [emptyModule, importingModule] 1).graph.symbol? "c.py" = some source ∧
          source.filePath ≠ "a.py" := by
  have held : (⟨"c.py", "a.py", .imports⟩ : Edge) ∈
      (run [emptyModule, importingModule] 1).graph.edges := by decide +kernel
  exact ⟨held, imports_lead_to_other_files.2 _ _ _ held rfl⟩

end SourceAtlas.ImportEdges
