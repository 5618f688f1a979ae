import SourceAtlas.Proofs.DirectoryImports
import SourceAtlas.Proofs.SplitTexts

/-! Relative paths act on directories. What a walk along the pieces of a path comes to is written with
slashes and read back into the same names, so a walk may be interrupted anywhere and taken up again
from the path that was reached. Where the names are canonical at the start they stay so, and a
canonical path leads from the root to itself. -/
namespace SourceAtlas.RelativePaths
open DirectoryImports SplitTexts

/-- A path without an empty segment and without one that is a dot or a double dot. -/
def Canonical (path : String) : Prop :=
  ∀ segment ∈ Path.pieces path, segment ≠ [] ∧ segment ≠ ['.'] ∧ segment ≠ ['.', '.']

/-- Names that can be written between slashes and read back. -/
def Writable (names : List (List Char)) : Prop :=
  ∀ name ∈ names, name ≠ [] ∧ '/' ∉ name

/-- Where a relative path starts from a directory: at the root behind a slash. -/
def start (dir relative : String) : List (List Char) :=
  if Text.startsWith "/" relative then [] else Chars.segments '/' dir.toList

theorem isName_iff (segment : List Char) :
    Path.isName segment = true ↔ segment ≠ [] ∧ segment ≠ ['.'] ∧ segment ≠ ['.', '.'] := by
  simp [Path.isName, and_assoc]

theorem pieces_clean (path : String) : ∀ piece ∈ Path.pieces path, '/' ∉ piece :=
  ((splitOn_iff '/' path.toList _).mp rfl).clean

theorem pieces_nonempty (path : String) : Path.pieces path ≠ [] :=
  ((splitOn_iff '/' path.toList _).mp rfl).nonempty

theorem pieces_joined (path : String) : directory (Path.pieces path) = path := by
  rw [directory, Path.pieces, ((splitOn_iff '/' path.toList _).mp rfl).joined, String.ofList_toList]

theorem pieces_append (first second : String) :
    Path.pieces (first ++ "/" ++ second) = Path.pieces first ++ Path.pieces second := by
  simpa [Path.pieces] using splitOn_append '/' first.toList second.toList

/-- The path of writable names is read back into these names. -/
theorem pieces_directory (writable : Writable names) (nonempty : names ≠ []) :
    Path.pieces (directory names) = names := by
  rw [Path.pieces, directory, String.toList_ofList, splitOn_iff]
  exact ⟨nonempty, rfl, fun name member => (writable name member).2⟩

theorem segments_directory (writable : Writable names) (nonempty : names ≠ []) :
    Chars.segments '/' (directory names).toList = names := by
  rw [Chars.segments]
  refine (congrArg _ (pieces_directory writable nonempty)).trans (List.filter_eq_self.mpr ?_)
  intro name member
  simpa using (writable name member).1

theorem start_writable (dir relative : String) : Writable (start dir relative) := by
  intro name member
  rw [start] at member
  split at member
  · cases member
  · obtain ⟨piece, nonempty⟩ := List.mem_filter.mp member
    exact ⟨by simpa using nonempty, pieces_clean dir name piece⟩

/-- A relative path resolves to what the walk comes to, unless that is the root. -/
theorem resolve_eq (dir relative : String) :
    Path.resolve dir relative = (Path.walk (start dir relative) (Path.pieces relative)).bind
      fun names => if names = [] then none else some (directory names) := by
  rw [Path.resolve, start]
  generalize Path.walk _ _ = walked
  cases walked with
  | none => rfl
  | some names => cases names <;> rfl

theorem resolve_walked (resolved : Path.resolve dir relative = some path) :
    ∃ names, Path.walk (start dir relative) (Path.pieces relative) = some names ∧ names ≠ [] ∧
      directory names = path := by
  rw [resolve_eq, Option.bind_eq_some_iff] at resolved
  obtain ⟨names, walked, written⟩ := resolved
  by_cases root : names = []
  · simp [root] at written
  · exact ⟨names, walked, root, by simpa [root] using written⟩

/-- Names that a walk comes to are writable. -/
theorem walked_writable
    (walked : Path.walk (start dir relative) (Path.pieces relative) = some names) :
    Writable names := by
  refine leads_all ((walk_iff _ _ _).mp walked) (start_writable dir relative) ?_
  intro piece member named
  exact ⟨((isName_iff piece).mp named).1, pieces_clean relative piece member⟩

/-- The way along names goes down each of them. -/
theorem leads_names (named : ∀ name ∈ names, Path.isName name = true) (above : List (List Char)) :
    Leads above names (above ++ names) := by
  induction names generalizing above with
  | nil =>
    rw [List.append_nil]
    exact .here
  | cons name rest ih =>
    obtain ⟨here, later⟩ := List.forall_mem_cons.mp named
    have below := ih later (above ++ [name])
    rw [List.append_assoc] at below
    exact .down here below

theorem canonical_named (canonical : Canonical path) :
    ∀ piece ∈ Path.pieces path, Path.isName piece = true :=
  fun piece member => (isName_iff piece).mpr (canonical piece member)

theorem start_canonical (canonical : dir = "" ∨ Canonical dir) (relative : String) :
    ∀ name ∈ start dir relative, Path.isName name = true := by
  intro name member
  rw [start] at member
  split at member
  · cases member
  · rcases canonical with rfl | canonical
    · cases member
    · exact canonical_named canonical name (List.mem_filter.mp member).1

/-- From a canonical directory a relative path leads to a canonical path. -/
theorem resolve_canonical (canonical : dir = "" ∨ Canonical dir)
    (resolved : Path.resolve dir relative = some path) : Canonical path := by
  obtain ⟨names, walked, nonempty, rfl⟩ := resolve_walked resolved
  have named : ∀ name ∈ names, Path.isName name = true :=
    leads_all ((walk_iff _ _ _).mp walked) (start_canonical canonical relative)
      fun _ _ isName => isName
  intro segment member
  rw [pieces_directory (walked_writable walked) nonempty] at member
  exact (isName_iff segment).mp (named segment member)

/-- A canonical path leads from the root to itself. -/
theorem resolve_self (canonical : Canonical path) : Path.resolve "" path = some path := by
  have root : start "" path = [] := by
    rw [start]
    split <;> rfl
  have walked := (walk_iff _ _ _).mpr (leads_names (canonical_named canonical) [])
  rw [List.nil_append] at walked
  rw [resolve_eq, root, walked, Option.bind_some, if_neg (pieces_nonempty path), pieces_joined]

theorem normalize_self (canonical : Canonical path) : Path.normalize path = path := by
  have kept : (Path.pieces path).filter Path.isName = Path.pieces path :=
    List.filter_eq_self.mpr (canonical_named canonical)
  rw [Path.normalize, kept]
  split
  · rename_i none
    exact absurd none (pieces_nonempty path)
  · exact pieces_joined path

theorem start_append (nonempty : first ≠ "") (dir second : String) :
    start dir (first ++ "/" ++ second) = start dir first := by
  cases shape : first.toList with
  | nil => exact absurd (String.toList_eq_nil_iff.mp shape) nonempty
  | cons c rest => simp [start, Text.startsWith, shape]

/-- A path with two parts leads from a directory to where its second part leads from the path that
its first part comes to. -/
theorem resolve_append (nonempty : first ≠ "") (relative : Text.startsWith "/" second = false)
    (reached : Path.resolve dir first = some path) :
    Path.resolve dir (first ++ "/" ++ second) = Path.resolve path second := by
  obtain ⟨names, walked, inside, rfl⟩ := resolve_walked reached
  have onward : Path.walk (start dir first) (Path.pieces first ++ Path.pieces second) =
      Path.walk names (Path.pieces second) := by
    rw [Path.walk] at walked ⊢
    rw [List.foldlM_append, walked]
    rfl
  have resumed : start (directory names) second = names := by
    rw [start, relative]
    exact segments_directory (walked_writable walked) inside
  rw [resolve_eq, resolve_eq, start_append nonempty, pieces_append, onward, resumed]

/-- Relative paths act on directories. The canonical paths are those that lead from the root to
themselves, and from the root or a canonical path no other path is reached. To go along a path and
then along another is to go along both in one, whether or not the second climbs above the root. -/
theorem relative_paths_act :
    (∀ path, Path.resolve "" path = some path ↔ Canonical path) ∧
    (∀ dir relative path, dir = "" ∨ Canonical dir → Path.resolve dir relative = some path →
      Canonical path ∧ Path.resolve "" path = some path ∧ Path.normalize path = path) ∧
    ∀ dir first second path, first ≠ "" → Text.startsWith "/" second = false →
      Path.resolve dir first = some path →
        Path.resolve dir (first ++ "/" ++ second) = Path.resolve path second := by
  refine ⟨fun path => ⟨resolve_canonical (.inl rfl), resolve_self⟩, ?_, ?_⟩
  · intro dir relative path canonical resolved
    have reached := resolve_canonical canonical resolved
    exact ⟨reached, resolve_self reached, normalize_self reached⟩
  · intro dir first second path nonempty relative reached
    exact resolve_append nonempty relative reached

/-- Up to a sibling, and from there to another one or above the root. -/
theorem sibling_then_up :
    (Canonical "src/app" ∧ Path.resolve "src/app" "..//lib/." = some "src/lib") ∧
      Canonical "src/lib" ∧
      Path.resolve "src/app" ("..//lib/." ++ "/" ++ ".//x/../../y") = some "src/y" ∧
      Path.resolve "src/app" ("..//lib/." ++ "/" ++ "../../../src") = none := by
  obtain ⟨-, stays, acts⟩ := relative_paths_act
  have canonical : Canonical "src/app" := by
    unfold Canonical
    decide +kernel
  have sibling : Path.resolve "src/app" "..//lib/." = some "src/lib" := by decide +kernel
  refine ⟨⟨canonical, sibling⟩, (stays _ _ _ (.inr canonical) sibling).1, ?_, ?_⟩
  · exact (acts _ _ _ _ (by decide) (by decide +kernel) sibling).trans (by decide +kernel)
  · exact (acts _ _ _ _ (by decide) (by decide +kernel) sibling).trans (by decide +kernel)

end SourceAtlas.RelativePaths
