import SourceAtlas.Proofs.AssemblyEdges
import SourceAtlas.Proofs.DigestLines
import SourceAtlas.Proofs.ExtractionShape

/-! A graph depends only on the set of files of registered languages. When paths are distinct and
free of hash signs, no id of one file is an id of another, so merging loses nothing and no first-come
rule ever decides; the order of the files and the files of other languages leave no trace. Extraction
may fail on some of the files, as long as it fails on the same ones. -/
namespace SourceAtlas.SupportedFiles
open SortedLists MergedSymbols RelationResolution AssemblyEdges Assembly

/-- Files whose ids cannot be confused: distinct paths without a hash sign. -/
structure Separate (files : List SourceFile) : Prop where
  distinct : (files.map (·.path)).Nodup
  hashless : ∀ file ∈ files, '#' ∉ file.path.toList

/-- Two lists hold the same files of registered languages. -/
def SameSupported (files files' : List SourceFile) : Prop :=
  ∀ file : SourceFile, file.language?.isSome = true → (file ∈ files ↔ file ∈ files')

/-- Outcomes of extraction, which may have failed on files of registered languages. -/
def MayFail (work : SourceFile → Outcome) : Prop :=
  ∀ file, work file = outcome file ∨ file.language?.isSome = true ∧ work file = .failed

/-- Nothing fails in an assembly of the files as they are. -/
theorem outcome_mayFail : MayFail outcome :=
  fun _ => .inl rfl

/-- What stands before the first hash sign of an id. -/
def owner (id : String) : List Char :=
  id.toList.takeWhile (· != '#')

private theorem not_hash {path : String} (hashless : '#' ∉ path.toList) :
    ∀ c ∈ path.toList, (c != '#') = true := by
  intro c member
  refine bne_iff_ne.mpr ?_
  rintro rfl
  exact hashless member

private theorem owner_of_hashless {path : String} (hashless : '#' ∉ path.toList) :
    owner path = path.toList :=
  List.takeWhile_eq_self_iff.mpr (not_hash hashless)

private theorem owner_behind_hash {path : String} (hashless : '#' ∉ path.toList) (own : String) :
    owner (path ++ "#" ++ own) = path.toList := by
  rw [owner, String.toList_append, String.toList_append, List.append_assoc,
    List.takeWhile_append_of_pos (not_hash hashless)]
  simp

/-- The path of a file can be read off each of its ids. -/
theorem owner_of_symbol {r : Reading} (hashless : '#' ∉ r.file.path.toList)
    (member : symbol ∈ r.extract.symbols) : owner symbol.id = r.file.path.toList := by
  rcases ExtractionShape.extract_id member with same | ⟨own, same⟩
  · rw [same, owner_of_hashless hashless]
  · rw [same, owner_behind_hash hashless]

/-- Two lists of separate files that hold the same files of registered languages differ in their order
only, as far as these go. -/
theorem supported_perm (separate : Separate files) (separate' : Separate files')
    (same : SameSupported files files') :
    (files.filter fun file => file.language?.isSome).Perm
      (files'.filter fun file => file.language?.isSome) := by
  refine (List.perm_ext_iff_of_nodup (separate.distinct.of_map.filter _)
    (separate'.distinct.of_map.filter _)).mpr fun file => ?_
  rw [List.mem_filter, List.mem_filter]
  exact and_congr_left (same file)

theorem extract_isSome (file : SourceFile) : file.extract?.isSome = file.language?.isSome :=
  Option.isSome_map

section
variable {work : SourceFile → Outcome} (mayFail : MayFail work)
include mayFail

theorem extracted_outcome (extracted : work file = .extracted extraction) :
    file.extract? = some extraction := by
  rcases mayFail file with whole | ⟨-, failed⟩
  · rw [extracted, outcome] at whole
    split at whole
    · rename_i found
      cases whole
      exact found
    · cases whole
  · rw [extracted] at failed
    cases failed

theorem extracted_supported (extracted : work file = .extracted extraction) :
    file.language?.isSome = true := by
  rw [← extract_isSome, extracted_outcome mayFail extracted]
  rfl

theorem unsupported_outcome (unsupported : ¬ file.language?.isSome = true) :
    work file = .unsupported := by
  rcases mayFail file with whole | ⟨supported, -⟩
  · rw [← extract_isSome, Option.not_isSome_iff_eq_none] at unsupported
    rw [whole, outcome, unsupported]
  · exact absurd supported unsupported

/-- Every contribution is what was read from one of the files. -/
theorem contribution_read (member : extraction ∈ contributions work files) :
    ∃ file ∈ files, ∃ language, work file = .extracted extraction ∧
      extraction = Reading.extract ⟨file, language⟩ := by
  obtain ⟨file, listed, extracted⟩ := mem_contributions.mp member
  obtain ⟨language, -, rfl⟩ := Option.map_eq_some_iff.mp (extracted_outcome mayFail extracted)
  exact ⟨file, listed, language, extracted, rfl⟩

private theorem contributions_supported (files : List SourceFile) :
    contributions work files =
      contributions work (files.filter fun file => file.language?.isSome) := by
  simp only [contributions, extractions, List.filterMap_map, List.filterMap_filter]
  refine List.filterMap_congr fun file _ => ?_
  split
  · rfl
  · rename_i unsupported
    rw [Function.comp_apply, unsupported_outcome mayFail unsupported]
    rfl

private theorem failures_supported (files : List SourceFile) :
    (files.map work).countP Outcome.isFailed =
      ((files.filter fun file => file.language?.isSome).map work).countP Outcome.isFailed := by
  rw [List.countP_map, List.countP_map, List.countP_filter]
  refine List.countP_congr fun file _ => ?_
  by_cases supported : file.language?.isSome = true
  · simp [supported]
  · simp [unsupported_outcome mayFail supported, Outcome.isFailed]

/-- Files with distinct paths share no id. -/
theorem contributions_apart (separate : Separate files) :
    (contributions work files).Pairwise fun a b =>
      ∀ symbol ∈ a.symbols, ∀ other ∈ b.symbols, symbol.id ≠ other.id := by
  rw [contributions, extractions, List.filterMap_map]
  refine List.pairwise_filterMap.mpr ((List.pairwise_map.mp separate.distinct).imp_of_mem ?_)
  intro file file' listed listed' different extraction found extraction' found' symbol held other
    held' sameId
  have extracted := extracted_outcome mayFail ((extraction_iff _ _).mp found)
  have extracted' := extracted_outcome mayFail ((extraction_iff _ _).mp found')
  obtain ⟨language, -, rfl⟩ := Option.map_eq_some_iff.mp extracted
  obtain ⟨language', -, rfl⟩ := Option.map_eq_some_iff.mp extracted'
  have ownPath := owner_of_symbol (separate.hashless file listed) held
  have otherPath := owner_of_symbol (separate.hashless file' listed') held'
  rw [sameId, otherPath] at ownPath
  exact different (String.toList_injective ownPath).symm

/-- No id occurs twice among all the symbols that separate files contribute. -/
theorem contributed_ids_distinct (separate : Separate files) :
    (((contributions work files).flatMap (·.symbols)).map (·.id)).Nodup := by
  rw [List.map_flatMap, List.nodup_flatMap]
  constructor
  · intro extraction member
    obtain ⟨file, -, language, -, rfl⟩ := contribution_read mayFail member
    exact ExtractionShape.ids_distinct (ExtractionShape.extract_sound _)
  · refine (contributions_apart mayFail separate).imp ?_
    intro extraction extraction' apart id member member'
    obtain ⟨symbol, held, rfl⟩ := List.mem_map.mp member
    obtain ⟨other, held', sameId⟩ := List.mem_map.mp member'
    exact apart symbol held other held' sameId.symm

/-- Merging the symbols of separate files loses none of them. -/
theorem merged_all (separate : Separate files) :
    (symbolsOf work files).symbols.Perm ((contributions work files).flatMap (·.symbols)) :=
  ofFirsts_perm (contributed_ids_distinct mayFail separate)

/-- A listed path is a symbol exactly when a file that was extracted has it. -/
theorem known_path (separate : Separate files) (path : String) :
    path ∈ (knownOf work files).paths ↔
      ∃ file ∈ files, ∃ extraction, work file = .extracted extraction ∧ file.path = path := by
  rw [knownOf, knownFiles, KnownFiles.ofList, mem_ofTexts, List.mem_filter, List.mem_map]
  constructor
  · rintro ⟨⟨listed, member, rfl⟩, known⟩
    obtain ⟨symbol, merged, sameId⟩ := (contains_iff _ _).mp known
    obtain ⟨extraction, contributed, held⟩ :=
      List.mem_flatMap.mp ((merged_all mayFail separate).mem_iff.mp merged)
    obtain ⟨file, source, language, extracted, rfl⟩ := contribution_read mayFail contributed
    refine ⟨file, source, _, extracted, ?_⟩
    have ownPath := owner_of_symbol (separate.hashless file source) held
    rw [sameId, owner_of_hashless (separate.hashless listed member)] at ownPath
    exact (String.toList_injective ownPath).symm
  · rintro ⟨file, member, extraction, extracted, rfl⟩
    have contributed := mem_contributions.mpr ⟨file, member, extracted⟩
    obtain ⟨language, -, rfl⟩ := Option.map_eq_some_iff.mp (extracted_outcome mayFail extracted)
    exact ⟨⟨file, member, rfl⟩, contributed_id contributed List.mem_cons_self⟩

section
variable (separate : Separate files) (separate' : Separate files')
  (same : SameSupported files files')
include separate separate' same

/-- The same files of registered languages contribute the same, in some order. -/
theorem contributions_perm : (contributions work files).Perm (contributions work files') := by
  rw [contributions_supported mayFail files, contributions_supported mayFail files']
  exact ((supported_perm separate separate' same).map work).filterMap _

theorem symbols_congr : symbolsOf work files = symbolsOf work files' :=
  ofFirsts_congr (contributed_ids_distinct mayFail separate)
    ((contributions_perm mayFail separate separate' same).flatMap_right _)

theorem relations_perm : (relationsOf work files).Perm (relationsOf work files') :=
  (contributions_perm mayFail separate separate' same).flatMap_right _

theorem known_congr : knownOf work files = knownOf work files' := by
  have paths : (knownOf work files).paths = (knownOf work files').paths := by
    refine increasing_unique (ofTexts_increasing _) (ofTexts_increasing _) fun path => ?_
    rw [known_path mayFail separate, known_path mayFail separate']
    constructor
    · rintro ⟨file, member, extraction, extracted, samePath⟩
      have supported := extracted_supported mayFail extracted
      exact ⟨file, (same file supported).mp member, extraction, extracted, samePath⟩
    · rintro ⟨file, member, extraction, extracted, samePath⟩
      have supported := extracted_supported mayFail extracted
      exact ⟨file, (same file supported).mpr member, extraction, extracted, samePath⟩
  exact congrArg KnownFiles.mk paths

/-- The relations are resolved to the same edges, in some order, and equally many are dropped. -/
theorem resolved_perm :
    (resolveAll (symbolsOf work files) (relationsOf work files) (knownOf work files)).1.Perm
        (resolveAll (symbolsOf work files') (relationsOf work files') (knownOf work files')).1 ∧
      (resolveAll (symbolsOf work files) (relationsOf work files) (knownOf work files)).2 =
        (resolveAll (symbolsOf work files') (relationsOf work files') (knownOf work files')).2 := by
  rw [← symbols_congr mayFail separate separate' same,
    ← known_congr mayFail separate separate' same]
  exact resolveAll_perm _ _ (relations_perm mayFail separate separate' same)

theorem tables_agree (workers workers' : Nat) :
    (runWith work files workers).graph.table = (runWith work files' workers').graph.table := by
  rw [runWith_graph, runWith_graph]
  exact symbols_congr mayFail separate separate' same

theorem edges_agree (workers workers' : Nat) :
    (runWith work files workers).graph.edges.Perm (runWith work files' workers').graph.edges := by
  refine (List.perm_ext_iff_of_nodup (runWith_edges_nodup work files workers)
    (runWith_edges_nodup work files' workers')).mpr fun edge => ?_
  rw [mem_runWith_edges, mem_runWith_edges,
    (resolved_perm mayFail separate separate' same).1.mem_iff]

theorem failures_agree :
    (files.map work).countP Outcome.isFailed = (files'.map work).countP Outcome.isFailed := by
  rw [failures_supported mayFail files, failures_supported mayFail files']
  exact ((supported_perm separate separate' same).map work).countP_eq _

/-- The books differ in the files that were looked at, not in what came of them. -/
theorem stats_agree (workers workers' : Nat) :
    (runWith work files' workers').stats = { (runWith work files workers).stats with
      filesSeen := (runWith work files' workers').stats.filesSeen
      filesSkipped := (runWith work files' workers').stats.filesSkipped } := by
  have extracted := (contributions_perm mayFail separate separate' same).length_eq
  have failed := failures_agree mayFail separate separate' same
  have nodes := congrArg (·.symbols.length)
    (tables_agree mayFail separate separate' same workers workers')
  have edges := (edges_agree mayFail separate separate' same workers workers').length_eq
  have dropped := (resolved_perm mayFail separate separate' same).2
  rw [runWith_stats work files workers, runWith_stats work files' workers']
  simp only [extracted, failed, nodes, edges, dropped]

end
end

/-- An empty module. -/
def emptyModule : SourceFile :=
  ⟨"a.py", "", #[{ depth := 0, kind := "module", named := true, field := "", start := 0, stop := 0 }]⟩

/-- A module that imports the empty one. -/
def importingModule : SourceFile :=
  ⟨"c.py", "import a\n", #[
    { depth := 0, kind := "module", named := true, field := "", start := 0, stop := 9 },
    { depth := 1, kind := "import_statement", named := true, field := "", start := 0, stop := 8 },
    { depth := 2, kind := "import", named := false, field := "", start := 0, stop := 6 },
    { depth := 2, kind := "dotted_name", named := true, field := "name", start := 7, stop := 8 },
    { depth := 3, kind := "identifier", named := true, field := "", start := 7, stop := 8 }]⟩

/-- A file of no registered language. -/
def plainNotes : SourceFile :=
  ⟨"notes.txt", "", #[]⟩

end SourceAtlas.SupportedFiles
