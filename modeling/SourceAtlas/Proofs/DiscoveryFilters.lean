import Mathlib.Data.List.Sort
import SourceAtlas.Proofs.GlobSelections
import SourceAtlas.Proofs.RelativePaths
import SourceAtlas.Proofs.SortedLists

/-! The files that discovery finds. An entry is passed over by a verdict on it alone, and a file is
found if nothing on the way to it is passed over. So a stricter selection finds nothing that a less
strict one does not find. Files below one root have different paths, so there is only one order in
which they can be given. -/
namespace SourceAtlas.DiscoveryFilters
open DirectoryImports GlobSelections RelativePaths SortedLists

/-- A search under another selection. -/
def under (search : Search) (selection : Selection) : Search :=
  { search with selection }

/-- The verdict on an entry that the selection says nothing about. -/
def fallback? (search : Search) (names : List (List Char)) (isDirectory : Bool) : Option Verdict :=
  (under search ⟨[]⟩).verdict? names isDirectory

theorem verdict_under (search : Search) (selection : Selection) (names : List (List Char))
    (isDirectory : Bool) :
    (under search selection).verdict? names isDirectory =
      (selection.verdict? (EntryPath.seenFrom search.rootPath (search.shortPath names))
        isDirectory).or (fallback? search names isDirectory) := by
  have silent (path : List Char) : Selection.verdict? ⟨[]⟩ path isDirectory = none := by
    simp [Selection.verdict?, IgnoreRules.verdict?]
  rw [fallback?, Search.verdict?, Search.verdict?, under, under]
  rw [silent, Option.none_or]
  rfl

section Stricter
variable (search : Search) {narrow wide : Selection}
variable (stricter : ∀ path isDirectory,
  Stricter (narrow.verdict? path isDirectory) (wide.verdict? path isDirectory))
include stricter

/-- What a selection passes over, a stricter one passes over too. -/
theorem skips_stricter (skipped : (under search wide).skips names isDirectory = true) :
    (under search narrow).skips names isDirectory = true := by
  rw [Search.skips, Bool.or_eq_true] at skipped ⊢
  rcases skipped with versionControl | skipped
  · exact .inl versionControl
  · right
    rw [verdict_under] at skipped ⊢
    rcases stricter (EntryPath.seenFrom search.rootPath (search.shortPath names)) isDirectory with
      same | skip | keep
    · rw [same]
      exact skipped
    · rw [skip]
      rfl
    -- what the wider selection keeps it cannot have passed over
    · rw [keep] at skipped
      cases skipped

theorem reachesBelow_stricter (reached : (under search narrow).reachesBelow names = true) :
    (under search wide).reachesBelow names = true := by
  rw [Search.reachesBelow, List.all_eq_true] at reached ⊢
  intro length member
  have entered := reached length member
  rw [Bool.not_eq_true'] at entered ⊢
  apply Bool.eq_false_iff.mpr
  intro skipped
  rw [skips_stricter search stricter skipped] at entered
  cases entered

theorem reaches_stricter (reached : (under search narrow).reaches names = true) :
    (under search wide).reaches names = true := by
  rw [Search.reaches, Bool.and_eq_true] at reached ⊢
  exact ⟨reached.1, reachesBelow_stricter search stricter reached.2⟩

end Stricter

theorem mem_sources (search : Search) (limit : Nat) (file : SourceFile) :
    file ∈ search.sources limit ↔ ∃ stored ∈ search.tree.files,
      search.reaches stored.names = true ∧ search.source? limit stored = some file := by
  simp only [Search.sources, List.mem_mergeSort, List.mem_filterMap, List.mem_filter, and_assoc]

theorem sources_stricter (search : Search) (limit : Nat)
    (stricter : ∀ path isDirectory,
      Stricter (narrow.verdict? path isDirectory) (wide.verdict? path isDirectory)) :
    (under search narrow).sources limit ⊆ (under search wide).sources limit := by
  intro file found
  obtain ⟨stored, member, reached, source⟩ := (mem_sources _ _ _).mp found
  exact (mem_sources _ _ _).mpr
    ⟨stored, member, reaches_stricter search stricter reached, source⟩

/-! Where a file that was found lies. -/

theorem names_writable (stored : StoredFile) : Writable stored.names := by
  intro name member
  obtain ⟨piece, named⟩ := List.mem_filter.mp member
  exact ⟨((isName_iff name).mp named).1, pieces_clean stored.path name piece⟩

theorem reaches_below {search : Search} (reached : search.reaches names = true) :
    ∃ below, below ≠ [] ∧ names = search.root ++ below ∧ search.reachesBelow below = true := by
  simp only [Search.reaches, Bool.and_eq_true, decide_eq_true_eq, List.isPrefixOf_iff_prefix]
    at reached
  obtain ⟨⟨⟨-, below, rfl⟩, longer⟩, reached⟩ := reached
  refine ⟨below, ?_, rfl, ?_⟩
  · rintro rfl
    simp at longer
  · rwa [List.drop_left] at reached

theorem source_some {search : Search} (source : search.source? limit stored = some file) :
    file.path = directory (stored.names.drop search.root.length) ∧
      (Language.ofPath? file.path).isSome = true ∧ stored.bytes.size ≤ limit ∧
      String.fromUTF8? stored.bytes = some file.content := by
  rw [Search.source?] at source
  split at source
  case isTrue fits =>
    obtain ⟨content, read, rfl⟩ := Option.map_eq_some_iff.mp source
    rw [Bool.and_eq_true, decide_eq_true_eq] at fits
    exact ⟨rfl, fits.1, fits.2, read⟩
  case isFalse => cases source

/-- The names of a file that was found are those of the root and, behind them, the pieces of its
path. -/
theorem found_names {search : Search} (reached : search.reaches stored.names = true)
    (source : search.source? limit stored = some file) :
    stored.names = search.root ++ Path.pieces file.path ∧
      search.reachesBelow (Path.pieces file.path) = true := by
  obtain ⟨below, nonempty, names, reachedBelow⟩ := reaches_below reached
  have writable : Writable below := by
    intro name member
    exact names_writable stored name (names ▸ List.mem_append_right _ member)
  have path : Path.pieces file.path = below := by
    rw [(source_some source).1, names, List.drop_left, pieces_directory writable nonempty]
  rw [path]
  exact ⟨names, reachedBelow⟩

/-- The files are found in the order of their paths, and no two of them have the same. -/
theorem sources_increasing (search : Search) (limit : Nat) :
    Increasing SourceFile.path (search.sources limit) := by
  let found := (search.tree.files.filter fun stored => search.reaches stored.names).filterMap
    (search.source? limit)
  -- the path of a file is read back into its names, and a tree has each of these once
  have apart : found.Pairwise fun a b => a.path ≠ b.path := by
    apply List.pairwise_filterMap.mpr
    apply (search.tree.distinct.filter _).imp_of_mem
    intro stored other reached otherReached distinct file source otherFile otherSource same
    apply distinct
    rw [(found_names (List.mem_filter.mp reached).2 source).1, same,
      (found_names (List.mem_filter.mp otherReached).2 otherSource).1]
  have perm : (search.sources limit).Perm found := List.mergeSort_perm _ _
  have sorted : (search.sources limit).Pairwise fun a b => a.path ≤ b.path := by
    refine (List.pairwise_mergeSort ?_ ?_ found).imp of_decide_eq_true
    · intro a b c first second
      exact decide_eq_true ((of_decide_eq_true first).trans (of_decide_eq_true second))
    · intro a b
      simpa using le_total a.path b.path
  refine (sorted.and ((perm.pairwise_iff ?_).mpr apart)).imp ?_
  · intro a b differ same
    exact differ same.symm
  · intro a b related
    exact lt_of_le_of_ne related.1 related.2

/-! What the options ask for. -/

/-- The path of an entry below the root, as globs see it. -/
def seenPath (options : RunOptions) (names : List (List Char)) : List Char :=
  EntryPath.seenFrom options.root.toList
    (EntryPath.dropHere (names.foldl EntryPath.child options.root.toList))

/-- Whether a glob to ignore matches an entry below the root. -/
def ignores (options : RunOptions) (names : List (List Char)) (isDirectory : Bool) : Bool :=
  applyAny (options.ignore.map ("!" ++ ·)) (seenPath options names) isDirectory

/-- A file that may be found from a root: one of the tree with a registered extension, of valid text
that is not too long, and with nothing to ignore on the way to it. -/
structure Admitted (tree : FileTree) (options : RunOptions) (root : List (List Char))
    (file : SourceFile) : Prop where
  registered : (Language.ofPath? file.path).isSome = true
  stored : ∃ stored ∈ tree.files, stored.names = root ++ Path.pieces file.path ∧
    stored.bytes.size ≤ options.maxFileSize ∧
    String.fromUTF8? stored.bytes = some file.content
  spared : ∀ length < (Path.pieces file.path).length,
    ignores options ((Path.pieces file.path).take (length + 1))
      (length + 1 < (Path.pieces file.path).length) = false

/-- The search from a place under a selection. -/
def searchFrom (tree : FileTree) (env : List (String × String)) (options : RunOptions)
    (root : List (List Char)) (selection : Selection) : Search where
  tree := tree
  root := root
  rootPath := options.root.toList
  selection := selection
  ruleFiles := !options.noGitignore
  userRules := UserRules.ofEnvironment tree env

section Rooted
variable {tree : FileTree} {env : List (String × String)} {options : RunOptions}
variable {root : List (List Char)}

/-- Discovery with valid globs gives a result. -/
theorem sources_accepted (located : tree.locate? options.root.toList = some root)
    (isDirectory : tree.kind? root = some .directory)
    (accepted : Accepted options.include_ options.ignore) :
    Discovery.sources tree env options =
      .ok ((searchFrom tree env options root (selected options.include_ options.ignore)).sources
        options.maxFileSize) := by
  simp only [Discovery.sources, Discovery.search, located, isDirectory, bne_self_eq_false,
    Bool.false_eq_true, if_false, ofGlobs_accepted accepted, bind, Except.bind, pure, Except.pure]
  rfl

/-- A glob to ignore wins against every other rule. -/
theorem skips_ignored (accepted : Accepted options.include_ options.ignore)
    (ignored : ignores options names isDirectory = true) :
    (searchFrom tree env options root (selected options.include_ options.ignore)).skips names
      isDirectory = true := by
  have verdict := verdict_eq accepted (seenPath options names) isDirectory
  rw [ignores] at ignored
  rw [if_pos ignored] at verdict
  have decided : (searchFrom tree env options root
      (selected options.include_ options.ignore)).verdict? names isDirectory = some .skip := by
    rw [Search.verdict?]
    exact (congrArg (Option.or · _) verdict).trans rfl
  rw [Search.skips, decided]
  exact Bool.or_true _

theorem sources_admitted (accepted : Accepted options.include_ options.ignore)
    (found : file ∈ (searchFrom tree env options root
      (selected options.include_ options.ignore)).sources options.maxFileSize) :
    Admitted tree options root file := by
  obtain ⟨stored, member, reached, source⟩ := (mem_sources _ _ _).mp found
  obtain ⟨names, below⟩ := found_names reached source
  obtain ⟨-, registered, small, read⟩ := source_some source
  refine ⟨registered, ⟨stored, member, names, small, read⟩, ?_⟩
  intro length inside
  have entered := List.all_eq_true.mp below length (List.mem_range.mpr inside)
  apply Bool.eq_false_iff.mpr
  intro ignored
  rw [skips_ignored accepted ignored] at entered
  cases entered

/-- Discovery with valid globs finds files in the strict order of their paths, all of them admitted.
One more glob to ignore adds no file, and one more glob to include removes none, if there is one
already. -/
theorem filters_ordered_and_monotone (located : tree.locate? options.root.toList = some root)
    (isDirectory : tree.kind? root = some .directory)
    (accepted : Accepted options.include_ options.ignore) :
    ∃ files, Discovery.sources tree env options = .ok files ∧
      Increasing SourceFile.path files ∧
      (∀ file ∈ files, Admitted tree options root file) ∧
      (∀ glob, accepts ("!" ++ glob) = true →
        ∃ fewer, Discovery.sources tree env { options with ignore := options.ignore ++ [glob] } =
          .ok fewer ∧ fewer ⊆ files) ∧
      (options.include_ ≠ [] → ∀ glob, Positive glob → accepts glob = true →
        ∃ more, Discovery.sources tree env
          { options with include_ := options.include_ ++ [glob] } = .ok more ∧ files ⊆ more) := by
  let search := searchFrom tree env options root (selected options.include_ options.ignore)
  refine ⟨search.sources options.maxFileSize, sources_accepted located isDirectory accepted,
    sources_increasing search _, fun file found => sources_admitted accepted found, ?_, ?_⟩
  · intro glob valid
    exact ⟨_, sources_accepted located isDirectory (accepted_ignoring accepted valid),
      sources_stricter search _ (ignoring_stricter accepted valid)⟩
  · intro asked glob positive valid
    exact ⟨_, sources_accepted located isDirectory (accepted_including accepted positive valid),
      sources_stricter search _ (including_stricter accepted asked positive valid)⟩

end Rooted

/-- A project with a module, a test of it, and a rule that leaves out every module. -/
def testedModule : FileTree :=
  .ofList [⟨"src/app.js", "app()".toUTF8, #[]⟩, ⟨"src/app.test.js", "test()".toUTF8, #[]⟩,
    ⟨".gitignore", "*.js".toUTF8, #[]⟩]

/-- All sources but the tests. -/
def withoutTests : RunOptions :=
  { include_ := ["src/**"], ignore := ["*.test.js"] }

/-- The module is found although the rule leaves it out, also when more is asked for. -/
theorem module_found_without_tests :
    Accepted withoutTests.include_ withoutTests.ignore ∧
      ignores withoutTests ["src".toList, "app.test.js".toList] false = true ∧
      ∃ files, Discovery.sources testedModule [] withoutTests = .ok files ∧
        Increasing SourceFile.path files ∧
        (∀ file ∈ files, Admitted testedModule withoutTests [] file) ∧
        ⟨"src/app.js", "app()", #[]⟩ ∈ files ∧
        (∃ fewer, Discovery.sources testedModule []
          { withoutTests with ignore := ["*.test.js", "app.*"] } = .ok fewer ∧ fewer ⊆ files) ∧
        ∃ more, Discovery.sources testedModule []
          { withoutTests with include_ := ["src/**", "lib/**"] } = .ok more ∧ files ⊆ more := by
  have positive : Positive "src/**" ∧ Positive "lib/**" := by
    exact ⟨⟨⟨'s', by decide, by decide⟩, by decide, by decide⟩,
      ⟨⟨'l', by decide, by decide⟩, by decide, by decide⟩⟩
  have accepted : Accepted withoutTests.include_ withoutTests.ignore :=
    ⟨List.forall_mem_singleton.mpr positive.1, by decide +kernel, by decide +kernel⟩
  have located : testedModule.locate? withoutTests.root.toList = some [] := by decide +kernel
  have isDirectory : testedModule.kind? [] = some .directory := by decide +kernel
  obtain ⟨files, found, increasing, admitted, fewer, more⟩ :=
    @filters_ordered_and_monotone testedModule [] withoutTests [] located isDirectory accepted
  have held : ⟨"src/app.js", "app()", #[]⟩ ∈ files := by
    rw [sources_accepted located isDirectory accepted] at found
    rw [← Except.ok.inj found]
    refine (mem_sources _ _ _).mpr ⟨⟨"src/app.js", "app()".toUTF8, #[]⟩, ?_, ?_, ?_⟩
    · exact List.mem_cons_of_mem _ (List.mem_cons_of_mem _ List.mem_cons_self)
    · decide +kernel
    · rfl
  exact ⟨accepted, by decide +kernel, files, found, increasing, admitted, held,
    fewer "app.*" (by decide +kernel), more (by decide) "lib/**" positive.2 (by decide +kernel)⟩

end SourceAtlas.DiscoveryFilters
