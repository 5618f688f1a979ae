import SourceAtlas.Extraction.Basic
import SourceAtlas.Graph
import SourceAtlas.Lookup

/-! Assembling the graph of a project: every file is extracted, the symbols are merged, and the
relations are resolved, imports first, because other names are looked up in imported files. The
outcome of a file may be that its extraction failed; then the others are assembled without it. The
queries of the registered languages are built in and a file comes with its syntax tree, so nothing
fails in `run`, and workers can always be had, so every assembly has a result. -/
namespace SourceAtlas

/-- What became of a file. -/
inductive Outcome where
  | extracted (extraction : Extraction)
  | unsupported
  | failed

namespace Outcome

/-- What was extracted from the file. -/
def extraction? : Outcome → Option Extraction
  | extracted extraction => some extraction
  | unsupported | failed => none

def isUnsupported : Outcome → Bool
  | unsupported => true
  | extracted _ | failed => false

def isFailed : Outcome → Bool
  | failed => true
  | extracted _ | unsupported => false

end Outcome

/-- The books of an assembly. -/
structure AssemblyStats where
  filesSeen : Nat := 0
  filesExtracted : Nat := 0
  filesSkipped : Nat := 0
  filesFailed : Nat := 0
  nodes : Nat := 0
  edges : Nat := 0
  relationsDropped : Nat := 0
deriving Repr, DecidableEq

/-- A graph and the books of its assembly. -/
structure Assembled where
  graph : Graph
  stats : AssemblyStats

namespace Assembly

/-- Extracts one file. -/
def outcome (file : SourceFile) : Outcome :=
  match file.extract? with
  | some extraction => .extracted extraction
  | none => .unsupported

/-- The outcomes of files that were worked on in any order: each arrives with the position of its
file, and they are put back into the order of the files. -/
def inOrder (arrived : List (Nat × Outcome)) : List Outcome :=
  (arrived.mergeSort fun a b => a.1 ≤ b.1).map (·.2)

/-- The outcomes of all files, of which `work` gives that of each. With one worker the files are
worked on in turn; with more, outcomes arrive in the order `schedule` gives to them. -/
def outcomes (work : SourceFile → Outcome) (files : List SourceFile) (workers : Nat)
    (schedule : List (Nat × Outcome) → List (Nat × Outcome)) : List Outcome :=
  if max workers 1 == 1 || files.length < 2 then files.map work
  else inOrder (schedule (files.zipIdx.map fun (file, i) => (i, work file)))

/-- The extractions among the outcomes. -/
def extractions (outcomes : List Outcome) : List Extraction :=
  outcomes.filterMap Outcome.extraction?

/-- The merged symbols: the first of each id. -/
def merge (extractions : List Extraction) : SymbolTable :=
  SymbolTable.ofFirsts (extractions.flatMap (·.symbols))

/-- The files that are symbols of the table. -/
def knownFiles (files : List SourceFile) (table : SymbolTable) : KnownFiles :=
  KnownFiles.ofList ((files.map (·.path)).filter table.contains)

/-- The edges of the resolved relations, imports before all others, and how many relations could not
be resolved. -/
def resolveAll (table : SymbolTable) (relations : List Relation) (known : KnownFiles) :
    List Edge × Nat :=
  let imports := ResolvedImports.ofRelations table relations known
  let others := relations.filter (·.kind != .imports)
  (imports.edges ++ others.filterMap (Lookup.edge? table imports),
    imports.unresolved + others.countP fun relation =>
      (Lookup.edge? table imports relation).isNone)

/-- The graph of the outcomes of some files. -/
def ofOutcomes (files : List SourceFile) (outcomes : List Outcome) : Assembled :=
  let found := extractions outcomes
  let table := merge found
  let (edges, dropped) :=
    resolveAll table (found.flatMap (·.relations)) (knownFiles files table)
  let graph := Graph.build table edges
  { graph
    stats := {
      filesSeen := files.length
      filesExtracted := found.length
      filesSkipped := outcomes.countP Outcome.isUnsupported
      filesFailed := outcomes.countP Outcome.isFailed
      nodes := graph.table.symbols.length
      edges := graph.edges.length
      relationsDropped := dropped } }

/-- The graph of a project with the outcomes that `work` gives. -/
def runWith (work : SourceFile → Outcome) (files : List SourceFile) (workers : Nat) : Assembled :=
  ofOutcomes files (outcomes work files workers id)

/-- The graph of a project. -/
def run (files : List SourceFile) (workers : Nat) : Assembled :=
  runWith outcome files workers

end Assembly
end SourceAtlas
