import SourceAtlas.Import.KnownFiles
import SourceAtlas.Proofs.ByteOrder
import SourceAtlas.Proofs.RelativePaths
import SourceAtlas.Proofs.SortedLists

/-! Looking a file up by the end of its path. The known files are searched in their order, so what
is found is the path itself or the least path with it behind a slash. A slash divides segments, so
no segment is ever found by a part of it. -/
namespace SourceAtlas.PathEndings
open ByteOrder RelativePaths SortedLists

/-- What is left of a text behind its leading slashes. -/
def bare (tail : String) : String :=
  String.ofList (tail.toList.dropWhile (· == '/'))

/-- A path that has `tail` behind a slash. -/
def Behind (tail path : String) : Prop :=
  ∃ dir, path = dir ++ "/" ++ tail

/-- The path with `tail` behind a slash that comes first by its bytes. -/
structure FirstBehind (tail : String) (paths : List String) (path : String) : Prop where
  known : path ∈ paths
  behind : Behind tail path
  least : ∀ other ∈ paths, Behind tail other → bytes path ≤ bytes other

theorem endsWith_iff (tail path : String) :
    Text.endsWith ("/" ++ tail) path = true ↔ Behind tail path := by
  rw [Text.endsWith, List.isSuffixOf_iff_suffix]
  constructor
  · rintro ⟨dir, shape⟩
    refine ⟨String.ofList dir, ?_⟩
    apply String.toList_inj.mp
    simpa using shape.symm
  · rintro ⟨dir, rfl⟩
    exact ⟨dir.toList, by simp⟩

/-- What stands behind a slash consists of the last segments. -/
theorem behind_segments (behind : Behind tail path) : Path.pieces tail <:+ Path.pieces path := by
  obtain ⟨dir, rfl⟩ := behind
  rw [pieces_append]
  exact List.suffix_append _ _

theorem contains_ofList (paths : List String) (path : String) :
    (KnownFiles.ofList paths).contains path = true ↔ path ∈ paths := by
  rw [KnownFiles.contains, KnownFiles.ofList, List.contains_iff_mem, mem_ofTexts]

theorem endingIn_bare (written : bare tail ≠ "") (known : bare tail ∈ paths) :
    (KnownFiles.ofList paths).endingIn? tail = some (bare tail) := by
  have nonempty : ¬ (bare tail).isEmpty = true := fun empty => written (by simpa using empty)
  have held := (contains_ofList paths (bare tail)).mpr known
  unfold KnownFiles.endingIn?
  exact (if_neg nonempty).trans (if_pos held)

theorem endingIn_search (written : bare tail ≠ "") (unknown : bare tail ∉ paths) :
    (KnownFiles.ofList paths).endingIn? tail =
      (Sorted.ofTexts paths).find? (Text.endsWith ("/" ++ bare tail)) := by
  have nonempty : ¬ (bare tail).isEmpty = true := fun empty => written (by simpa using empty)
  have missing : ¬ (KnownFiles.ofList paths).contains (bare tail) = true :=
    fun held => unknown ((contains_ofList paths (bare tail)).mp held)
  unfold KnownFiles.endingIn?
  exact (if_neg nonempty).trans (if_neg missing)

theorem endingIn_empty (empty : bare tail = "") :
    (KnownFiles.ofList paths).endingIn? tail = none := by
  have nothing : (bare tail).isEmpty = true := by rw [empty]; rfl
  unfold KnownFiles.endingIn?
  exact if_pos nothing

/-- The search for an ending comes to the least path that has it. -/
theorem search_behind (paths : List String) (tail path : String) :
    (Sorted.ofTexts paths).find? (Text.endsWith ("/" ++ tail)) = some path ↔
      FirstBehind tail paths path := by
  rw [find_increasing (ofTexts_increasing paths)]
  simp only [mem_ofTexts, endsWith_iff, id_eq, le_iff_bytes]
  constructor
  · rintro ⟨known, behind, least⟩
    exact ⟨known, behind, least⟩
  · rintro ⟨known, behind, least⟩
    exact ⟨known, behind, least⟩

theorem search_none_behind (paths : List String) (tail : String) :
    (Sorted.ofTexts paths).find? (Text.endsWith ("/" ++ tail)) = none ↔
      ∀ path ∈ paths, ¬ Behind tail path := by
  rw [List.find?_eq_none]
  simp only [mem_ofTexts, endsWith_iff]

/-- Nothing is found exactly when nothing is asked for or no path ends in it. -/
theorem endingIn_none_iff (paths : List String) (tail : String) :
    (KnownFiles.ofList paths).endingIn? tail = none ↔
      bare tail = "" ∨ ∀ path ∈ paths, path ≠ bare tail ∧ ¬ Behind (bare tail) path := by
  by_cases written : bare tail = ""
  · simp only [endingIn_empty written, written, true_or]
  · by_cases known : bare tail ∈ paths
    · rw [endingIn_bare written known]
      constructor
      · intro nothing
        cases nothing
      · rintro (empty | missing)
        · exact absurd empty written
        · exact absurd rfl (missing _ known).1
    · rw [endingIn_search written known, search_none_behind]
      constructor
      · intro missing
        apply Or.inr
        intro path member
        refine ⟨?_, missing path member⟩
        rintro rfl
        exact known member
      · rintro (empty | missing)
        · exact absurd empty written
        · exact fun path member => (missing path member).2

/-- A look-up by an ending finds the path itself where it is known, and else the first path that has
the ending behind a slash. It finds nothing only where there is no such path, and what it finds has
the segments of the ending as its last segments. -/
theorem ending_finds_first (paths : List String) (tail : String) :
    ((KnownFiles.ofList paths).endingIn? tail = none ↔
      bare tail = "" ∨ ∀ path ∈ paths, path ≠ bare tail ∧ ¬ Behind (bare tail) path) ∧
    (bare tail ≠ "" → bare tail ∈ paths →
      (KnownFiles.ofList paths).endingIn? tail = some (bare tail)) ∧
    (bare tail ≠ "" → bare tail ∉ paths → ∀ path,
      (KnownFiles.ofList paths).endingIn? tail = some path ↔ FirstBehind (bare tail) paths path) ∧
    ∀ path, (KnownFiles.ofList paths).endingIn? tail = some path →
      Path.pieces (bare tail) <:+ Path.pieces path := by
  have behind (written : bare tail ≠ "") (unknown : bare tail ∉ paths) (path : String) :
      (KnownFiles.ofList paths).endingIn? tail = some path ↔
        FirstBehind (bare tail) paths path := by
    rw [endingIn_search written unknown, search_behind]
  refine ⟨endingIn_none_iff paths tail, endingIn_bare, behind, ?_⟩
  intro path found
  have written : bare tail ≠ "" := by
    intro empty
    rw [endingIn_empty empty] at found
    cases found
  by_cases known : bare tail ∈ paths
  · rw [endingIn_bare written known] at found
    cases found
    exact List.suffix_refl _
  · exact behind_segments ((behind written known path).mp found).behind

/-- The name of a file does not find a longer name that ends in it, and of two directories that hold
it the first one counts. -/
theorem whole_segments_found :
    (KnownFiles.ofList ["lib/my_util.rb", "lib/util.rb", "app/util.rb"]).endingIn? "//util.rb" =
        some "app/util.rb" ∧
      FirstBehind "util.rb" ["lib/my_util.rb", "lib/util.rb", "app/util.rb"] "app/util.rb" ∧
      (KnownFiles.ofList ["lib/util.rb", "util.rb"]).endingIn? "util.rb" = some "util.rb" := by
  have found : (KnownFiles.ofList ["lib/my_util.rb", "lib/util.rb", "app/util.rb"]).endingIn?
      "//util.rb" = some "app/util.rb" := by decide +kernel
  have stripped : bare "//util.rb" = "util.rb" := by decide +kernel
  have plain : bare "util.rb" = "util.rb" := by decide +kernel
  obtain ⟨-, -, first, -⟩ :=
    ending_finds_first ["lib/my_util.rb", "lib/util.rb", "app/util.rb"] "//util.rb"
  obtain ⟨-, itself, -, -⟩ := ending_finds_first ["lib/util.rb", "util.rb"] "util.rb"
  rw [stripped] at first
  rw [plain] at itself
  refine ⟨found, (first (by decide) (by decide) _).mp found, itself (by decide) (by decide)⟩

end SourceAtlas.PathEndings
