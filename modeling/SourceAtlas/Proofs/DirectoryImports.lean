import Mathlib.Data.List.Basic
import SourceAtlas.Import.Basic

/-! Imports that name a directory. The way from a file to the directory is said apart from the fold
that follows it, one constructor for each kind of piece. Inside of the project such an import
leads to the first index file of the directory. At the root it leads nowhere, because the fold has
no path for the root itself. -/
namespace SourceAtlas.DirectoryImports
open Import

/-- The way from one directory to another along the pieces of a path. There is no way up from the
root. -/
inductive Leads : List (List Char) → List (List Char) → List (List Char) → Prop where
  | here : Leads names [] names
  | stay (idle : piece = [] ∨ piece = ['.']) (rest : Leads names pieces target) :
      Leads names (piece :: pieces) target
  | up (rest : Leads names pieces target) :
      Leads (names ++ [name]) (['.', '.'] :: pieces) target
  | down (named : Path.isName piece = true) (rest : Leads (names ++ [piece]) pieces target) :
      Leads names (piece :: pieces) target

private theorem step_idle (idle : piece = [] ∨ piece = ['.']) (names : List (List Char)) :
    Path.step names piece = some names := by
  rcases idle with rfl | rfl <;> rfl

private theorem step_up (names : List (List Char)) (name : List Char) :
    Path.step (names ++ [name]) ['.', '.'] = some names := by
  simp [Path.step]

private theorem step_down (named : Path.isName piece = true) (names : List (List Char)) :
    Path.step names piece = some (names ++ [piece]) := by
  simp only [Path.isName, Bool.and_eq_true, Bool.not_eq_true', bne_iff_ne] at named
  simp [Path.step, named]

/-- Folding the pieces of a path follows the way. -/
theorem walk_iff (names pieces target : List (List Char)) :
    Path.walk names pieces = some target ↔ Leads names pieces target := by
  constructor
  · intro walked
    induction pieces generalizing names with
    | nil =>
      cases walked
      exact .here
    | cons piece pieces ih =>
      rw [Path.walk, List.foldlM_cons, Option.bind_eq_bind, Option.bind_eq_some_iff] at walked
      obtain ⟨next, stepped, walked⟩ := walked
      have rest := ih next walked
      by_cases idle : piece = [] ∨ piece = ['.']
      · rw [step_idle idle] at stepped
        cases stepped
        exact .stay idle rest
      · by_cases climbs : piece = ['.', '.']
        · subst climbs
          rcases names.eq_nil_or_concat with rfl | ⟨above, name, rfl⟩
          · cases stepped
          · rw [List.concat_eq_append, step_up] at stepped
            cases stepped
            rw [List.concat_eq_append]
            exact .up rest
        · have named : Path.isName piece = true := by
            simpa [Path.isName, climbs] using idle
          rw [step_down named] at stepped
          cases stepped
          exact .down named rest
  · intro leads
    induction leads with
    | here => rfl
    | stay idle _ ih => rw [Path.walk, List.foldlM_cons, step_idle idle]; exact ih
    | up _ ih => rw [Path.walk, List.foldlM_cons, step_up]; exact ih
    | down named _ ih => rw [Path.walk, List.foldlM_cons, step_down named]; exact ih

/-- What holds of the names a way starts with and of every name among its pieces holds of the names
it ends with. -/
theorem leads_all {P : List Char → Prop} (leads : Leads names pieces target)
    (start : ∀ name ∈ names, P name) (way : ∀ piece ∈ pieces, Path.isName piece = true → P piece) :
    ∀ name ∈ target, P name := by
  induction leads with
  | here => exact start
  | stay _ _ ih => exact ih start fun piece member => way piece (List.mem_cons_of_mem _ member)
  | up _ ih =>
    exact ih (fun name member => start name (List.mem_append_left _ member))
      fun piece member => way piece (List.mem_cons_of_mem _ member)
  | @down piece names pieces target isName _ ih =>
    refine ih ?_ fun piece member => way piece (List.mem_cons_of_mem _ member)
    intro name member
    rcases List.mem_append.mp member with earlier | new
    · exact start name earlier
    · obtain rfl := List.mem_singleton.mp new
      exact way name List.mem_cons_self isName

/-- No way ends at a directory without a name, if it starts below named ones. -/
theorem leads_named (leads : Leads names pieces target) (named : ∀ name ∈ names, name ≠ []) :
    ∀ name ∈ target, name ≠ [] := by
  refine leads_all leads named fun piece _ isName => ?_
  rintro rfl
  cases isName

/-- Where a relative path starts: at the root behind a slash, else in the directory of its file. -/
def origin (file path : String) : List (List Char) :=
  if Text.startsWith "/" path then [] else Chars.segments '/' (Path.parent file).toList

/-- An import that is written as a path and leads to the directory with these names. A query and a
fragment do not count. -/
structure PointsAt (file spec : String) (names : List (List Char)) : Prop where
  relative : isRelative (withoutQuery (Text.trim spec)) = true
  leads : Leads (origin file (withoutQuery (Text.trim spec)))
    (Path.pieces (withoutQuery (Text.trim spec))) names

/-- The path of the directory with these names, empty for the root. -/
def directory (names : List (List Char)) : String :=
  String.ofList (Chars.join '/' names)

/-- The index files a directory may have, in the order of preference. -/
def indexFilesOf (names : List (List Char)) : List String :=
  Javascript.indexFiles.map (Path.within (directory names))

private theorem origin_named (file path : String) : ∀ name ∈ origin file path, name ≠ [] := by
  intro name member
  rw [origin] at member
  split at member
  · cases member
  · simpa using (List.mem_filter.mp member).2

private theorem directory_nonempty (inside : names ≠ []) (named : ∀ name ∈ names, name ≠ []) :
    (directory names).isEmpty = false := by
  cases names with
  | nil => exact absurd rfl inside
  | cons first rest =>
    have head : first ≠ [] := named first List.mem_cons_self
    cases rest with
    | nil => simpa [directory, Chars.join, String.isEmpty_eq_false_iff] using head
    | cons => simp [directory, Chars.join, String.isEmpty_eq_false_iff, head]

/-- The fold gives the path of the directory, and nothing for the root. -/
theorem besides_points (points : PointsAt file spec names) :
    besides? file (withoutQuery (Text.trim spec)) =
      if names = [] then none else some (directory names) := by
  have walked := (walk_iff _ _ _).mpr points.leads
  rw [origin] at walked
  rw [besides?, Path.resolve, walked]
  cases names <;> rfl

/-- Probes of single paths find the first path that is known. -/
theorem findSome_paths (known : KnownFiles) (paths : List String) :
    (paths.map Probe.path).findSome? (Probe.find? known) = paths.find? known.contains := by
  induction paths with
  | nil => rfl
  | cons path paths ih =>
    rw [List.map_cons, List.findSome?_cons, List.find?_cons, ih, Probe.find?]
    by_cases held : known.contains path = true <;> simp [held]

/-- What a module in a directory may be called: the directory itself, a file beside it, or an index
file in it. -/
private theorem candidates_paths (inside : (directory names).isEmpty = false) :
    Probe.candidates (directory names) Javascript.extensions Javascript.indexFiles =
      (directory names :: Javascript.extensions.map (directory names ++ "." ++ ·) ++
        indexFilesOf names).map Probe.path := by
  have within : indexFilesOf names = Javascript.indexFiles.map (directory names ++ "/" ++ ·) := by
    refine List.map_congr_left fun index member => ?_
    have called : ∀ index ∈ Javascript.indexFiles, index.isEmpty = false := by decide
    simp [Path.within, inside, called index member]
  rw [Probe.candidates, inside, within]
  simp [Function.comp_def]

/-- The search of an import that names a directory starts with what the directory may stand for. At
the root there is nothing to search for. -/
private theorem search_points (points : PointsAt file spec names) :
    ∃ compiled, Javascript.search file (Text.trim spec) =
      if names = [] then []
      else (directory names :: Javascript.extensions.map (directory names ++ "." ++ ·) ++
        indexFilesOf names).map Probe.path ++ compiled := by
  rw [Javascript.search, if_pos points.relative, besides_points points]
  by_cases root : names = []
  · exact ⟨[], by simp [root]⟩
  · have named := leads_named points.leads (origin_named _ _)
    simp only [if_neg root, ← candidates_paths (directory_nonempty root named)]
    exact ⟨_, rfl⟩

/-- Where neither the path itself nor a file beside it is known, an import that names a directory
leads to the first of its index files, unless the directory is the root of the project. -/
theorem index_file_below_root {file spec : String} {known : KnownFiles} {target : String}
    {names : List (List Char)} (points : PointsAt file spec names)
    (noFile : known.contains (directory names) = false)
    (noneBeside : ∀ ext ∈ Javascript.extensions,
      known.contains (directory names ++ "." ++ ext) = false)
    (first : (indexFilesOf names).find? known.contains = some target) (other : target ≠ file) :
    resolve .javascript file spec known = if names = [] then none else some target := by
  have written : (Text.trim spec).isEmpty = false := by
    apply Bool.eq_false_iff.mpr
    intro empty
    have relative := points.relative
    rw [String.isEmpty_iff.mp empty] at relative
    exact absurd relative (by decide)
  have unextended : (Javascript.extensions.map (directory names ++ "." ++ ·)).find?
      known.contains = none := by
    simpa using noneBeside
  obtain ⟨compiled, searched⟩ := search_points points
  simp only [resolve, search, written, searched, Bool.false_eq_true, if_false]
  split
  · rfl
  · rw [List.findSome?_append, findSome_paths, List.cons_append, List.find?_cons, noFile,
      List.find?_append, unextended, first]
    simp [Option.filter, other]

/-- A double dot from a directory below another one: the way leads up once, to an index file. -/
theorem parent_index_file_found :
    PointsAt "a/c/b.js" ".." [['a']] ∧
      resolve .javascript "a/c/b.js" ".." (.ofList ["a/c/b.js", "a/index.js", "a/index.mjs"]) =
        if [['a']] = [] then none else some "a/index.js" := by
  have way : Leads (origin "a/c/b.js" (withoutQuery (Text.trim "..")))
      (Path.pieces (withoutQuery (Text.trim ".."))) [['a']] := (walk_iff _ _ _).mp (by decide)
  have points : PointsAt "a/c/b.js" ".." [['a']] := ⟨by decide, way⟩
  exact ⟨points, index_file_below_root points (by decide +kernel) (by decide +kernel)
    (by decide +kernel) (by decide)⟩

/-- From a directory at the root the same double dot leads to the root, whose index file is not
found although it is known. -/
theorem root_index_file_missed :
    PointsAt "a/b.js" ".." [] ∧ indexFilesOf [] = Javascript.indexFiles ∧
      (indexFilesOf []).find? (KnownFiles.ofList ["a/b.js", "index.js"]).contains =
        some "index.js" ∧
      resolve .javascript "a/b.js" ".." (.ofList ["a/b.js", "index.js"]) = none := by
  have way : Leads (origin "a/b.js" (withoutQuery (Text.trim "..")))
      (Path.pieces (withoutQuery (Text.trim ".."))) [] := (walk_iff _ _ _).mp (by decide)
  exact ⟨⟨by decide, way⟩, by decide, by decide +kernel, by decide +kernel⟩

end SourceAtlas.DirectoryImports
