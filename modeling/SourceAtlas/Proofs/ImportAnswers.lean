import Mathlib.Logic.Basic
import SourceAtlas.Import.Basic
import SourceAtlas.Proofs.SortedLists
import SourceAtlas.Proofs.WordRuns

/-! The answers of import searches. Every probe answers with a file that is known, so whatever an import
asks for, the search for it ends at a known file or nowhere. -/
namespace SourceAtlas.ImportTargets

theorem contains_iff (known : KnownFiles) (path : String) :
    known.contains path = true ↔ path ∈ known.paths :=
  List.contains_iff_mem

private theorem endingIn_known {known : KnownFiles} (found : known.endingIn? tail = some path) :
    path ∈ known.paths := by
  unfold KnownFiles.endingIn? at found
  dsimp only at found
  split at found
  · cases found
  · split at found
    · rename_i contained
      cases found
      exact (contains_iff known _).mp contained
    · exact List.mem_of_find?_eq_some found

/-- A probe finds nothing but known files. -/
theorem find_known {probe : Probe} (found : probe.find? known = some path) :
    path ∈ known.paths := by
  cases probe with
  | path p =>
    simp only [Probe.find?] at found
    split at found
    · rename_i contained
      cases found
      exact (contains_iff known _).mp contained
    · cases found
  | tail segments => exact endingIn_known found
  | sourceIn dir isSource => exact (List.mem_filter.mp (List.mem_of_find?_eq_some found)).1
  | sourceInTail segments isSource => exact List.mem_of_find?_eq_some found

/-- An import resolves to a known file other than the one it stands in, or not at all. -/
theorem resolve_known (found : Import.resolve family file spec known = some target) :
    target ∈ known.paths ∧ target ≠ file := by
  unfold Import.resolve at found
  dsimp only at found
  split at found
  · cases found
  · obtain ⟨hit, other⟩ := Option.filter_eq_some_iff.mp found
    obtain ⟨probe, -, here⟩ := List.exists_of_findSome?_eq_some hit
    exact ⟨find_known here, by simpa using other⟩

end SourceAtlas.ImportTargets

/-! What a new file does to the imports of a project. A probe prefers files in a fixed order, so one
more known file can only take the place of what the probe found before. The same then holds of a
search, as long as its probes do not depend on which files are known. -/
namespace SourceAtlas.ImportGrowth
open SortedLists TrimmedTexts Import

/-- The second set of known files has one more path, or the same ones if the path was known. -/
structure Grown (known : KnownFiles) (path : String) (known' : KnownFiles) : Prop where
  before : Increasing id known.paths
  after : Increasing id known'.paths
  members : ∀ other, other ∈ known'.paths ↔ other = path ∨ other ∈ known.paths

/-- An answer that is the earlier one, or the new path in its place. -/
def KeptOr (path : String) (earlier later : Option String) : Prop :=
  later = earlier ∨ later = some path

/-- A module path that does not start at the root of a crate: it starts with `self` or `super`, or
it is a single segment. -/
def Local (spec : String) : Prop :=
  (Module.segments spec).head? = some "self" ∨ (Module.segments spec).head? = some "super" ∨
    (Module.segments spec).length = 1

theorem ofList_grown (paths : List String) (path : String) :
    Grown (.ofList paths) path (.ofList (path :: paths)) := by
  refine ⟨ofTexts_increasing paths, ofTexts_increasing (path :: paths), ?_⟩
  intro other
  simp only [KnownFiles.ofList, mem_ofTexts, List.mem_cons]

section
variable {known known' : KnownFiles} {path : String} (grown : Grown known path known')
include grown

/-- The first file that passes a test stays the first, unless the new one comes before it. -/
theorem find_grown (test : String → Bool) :
    KeptOr path (known.paths.find? test) (known'.paths.find? test) := by
  cases found : known'.paths.find? test with
  | none =>
    have nothing : known.paths.find? test = none := by
      apply List.find?_eq_none.mpr
      intro other member
      exact List.find?_eq_none.mp found other ((grown.members other).mpr (.inr member))
    exact .inl nothing.symm
  | some hit =>
    obtain ⟨member, passes, least⟩ := (find_increasing grown.after test hit).mp found
    rcases (grown.members hit).mp member with rfl | earlier
    · exact .inr rfl
    · have first : known.paths.find? test = some hit := by
        apply (find_increasing grown.before test hit).mpr
        refine ⟨earlier, passes, ?_⟩
        intro other memberOther
        exact least other ((grown.members other).mpr (.inr memberOther))
      exact .inl first.symm

theorem contains_grown (other : String) :
    known'.contains other = (other == path || known.contains other) := by
  apply Bool.eq_iff_iff.mpr
  simp only [KnownFiles.contains, List.contains_iff_mem, grown.members, Bool.or_eq_true,
    beq_iff_eq]

private theorem endingIn_grown (tail : String) :
    KeptOr path (known.endingIn? tail) (known'.endingIn? tail) := by
  unfold KnownFiles.endingIn?
  dsimp only
  generalize String.ofList (tail.toList.dropWhile (· == '/')) = bare
  by_cases empty : bare.isEmpty = true
  · exact .inl (by rw [if_pos empty, if_pos empty])
  · rw [if_neg empty, if_neg empty, contains_grown grown]
    by_cases new : bare = path
    · exact .inr (by simp [new])
    · by_cases held : known.contains bare = true
      · exact .inl (by simp [held])
      · simpa [new, held] using find_grown grown (Text.endsWith ("/" ++ bare))

/-- A probe finds what it found before, or the new file. -/
theorem probe_grown (probe : Probe) : KeptOr path (probe.find? known) (probe.find? known') := by
  cases probe with
  | path asked =>
    simp only [Probe.find?, contains_grown grown]
    by_cases new : asked = path
    · exact .inr (by simp [new])
    · exact .inl (by simp [new])
  | tail segments => exact endingIn_grown grown segments
  | sourceIn dir isSource =>
    simp only [Probe.find?, KnownFiles.inDirectory, List.find?_filter]
    exact find_grown grown _
  | sourceInTail segments isSource => exact find_grown grown _

/-- So does a search: the first probe that hit before still hits, unless an earlier one now finds
the new file. -/
theorem search_grown (probes : List Probe) :
    KeptOr path (probes.findSome? (Probe.find? known)) (probes.findSome? (Probe.find? known')) := by
  induction probes with
  | nil => exact .inl rfl
  | cons probe rest ih =>
    rw [List.findSome?_cons, List.findSome?_cons]
    rcases probe_grown grown probe with same | new
    · rw [same]
      cases probe.find? known with
      | none => exact ih
      | some hit => exact .inl rfl
    · rw [new]
      exact .inr rfl

end

theorem segments_trim (spec : String) :
    Module.segments (Text.trim spec) = Module.segments spec := by
  have again : Chars.trim (Text.trim spec).toList = Chars.trim spec.toList := by
    simpa only [Text.trim, String.toList_ofList] using congrArg String.toList (trim_trim spec)
  simp only [Module.segments, again]

/-- A lone `crate` names no module, so where its crate starts does not matter. -/
private theorem probes_nil (dir : String) : Module.probes dir [] = [] :=
  rfl

private theorem moduleSearch_local (inside : Local spec) (file : String)
    (known known' : KnownFiles) :
    Module.search file spec known = Module.search file spec known' := by
  unfold Local at inside
  unfold Module.search
  cases shape : Module.segments spec with
  | nil => rfl
  | cons first rest =>
    simp only [shape, List.head?_cons, Option.some.injEq, List.length_cons,
      Nat.add_eq_right, List.length_eq_zero_iff] at inside
    rcases inside with rfl | rfl | rfl
    · simp
    · simp
    · simp only [probes_nil, List.isEmpty_nil, if_true]

/-- Only the search for a path from the root of a crate depends on the known files. -/
theorem search_fixed (inside : family = .rust → Local spec) (file : String)
    (known known' : KnownFiles) :
    search family file spec known = search family file spec known' := by
  cases family with
  | rust => exact moduleSearch_local (inside rfl) file known known'
  | _ => rfl

theorem resolve_grown (grown : Grown known path known') (inside : family = .rust → Local spec)
    (other : path ≠ file) :
    KeptOr path (resolve family file spec known) (resolve family file spec known') := by
  have trimmed : family = .rust → Local (Text.trim spec) := by
    intro rust
    rw [Local, segments_trim]
    exact inside rust
  unfold resolve
  dsimp only
  split
  · exact .inl rfl
  · rw [search_fixed trimmed file known' known]
    rcases search_grown grown (search family file (Text.trim spec) known) with same | new
    · exact .inl (by rw [same])
    · refine .inr ?_
      rw [new, Option.filter_some, if_pos (by simpa using other)]

/-- A new file never breaks an import and never sends it to a third file. When an import in a known
file leads somewhere, then with one more known path it still leads there, or to the new path. Of
modules in crates this is said for paths that do not start at the root of a crate. -/
theorem import_survives_growth {family : Family} {file spec target : String} {paths : List String}
    (inside : family = .rust → Local spec) (listed : file ∈ paths)
    (found : resolve family file spec (.ofList paths) = some target) (path : String) :
    resolve family file spec (.ofList (path :: paths)) = some target ∨
      resolve family file spec (.ofList (path :: paths)) = some path := by
  by_cases new : path = file
  · -- the importing file is known already, so nothing was added
    subst new
    have unchanged : KnownFiles.ofList (path :: paths) = .ofList paths := by
      refine congrArg KnownFiles.mk (ofTexts_congr fun text => ?_)
      rw [List.mem_cons, or_iff_right_iff_imp]
      rintro rfl
      exact listed
    exact .inl (by rw [unchanged, found])
  · rw [← found]
    exact resolve_grown (ofList_grown paths path) inside new

/-- The parent's module in a directory gives way to a file beside it. -/
theorem sibling_module_survives :
    Local "super::graph" ∧ "src/a/b.rs" ∈ ["src/a/b.rs", "src/a/graph/mod.rs"] ∧
      resolve .rust "src/a/b.rs" "super::graph" (.ofList ["src/a/b.rs", "src/a/graph/mod.rs"]) =
        some "src/a/graph/mod.rs" ∧
      (resolve .rust "src/a/b.rs" "super::graph"
          (.ofList ["src/a/graph.rs", "src/a/b.rs", "src/a/graph/mod.rs"]) =
            some "src/a/graph/mod.rs" ∨
        resolve .rust "src/a/b.rs" "super::graph"
          (.ofList ["src/a/graph.rs", "src/a/b.rs", "src/a/graph/mod.rs"]) =
            some "src/a/graph.rs") := by
  have inside : Local "super::graph" := .inr (.inl (by decide +kernel))
  have listed : "src/a/b.rs" ∈ ["src/a/b.rs", "src/a/graph/mod.rs"] := by decide
  have found : resolve .rust "src/a/b.rs" "super::graph"
      (.ofList ["src/a/b.rs", "src/a/graph/mod.rs"]) = some "src/a/graph/mod.rs" := by
    decide +kernel
  exact ⟨inside, listed, found,
    import_survives_growth (fun _ => inside) listed found "src/a/graph.rs"⟩

/-- A path from the root of a crate is different: a new root below the old one hides what the old
one holds. -/
example :
    resolve .rust "src/a/b.rs" "crate::graph"
      (.ofList ["src/a/b.rs", "src/graph.rs", "src/lib.rs"]) = some "src/graph.rs" ∧
    resolve .rust "src/a/b.rs" "crate::graph"
      (.ofList ["src/a/lib.rs", "src/a/b.rs", "src/graph.rs", "src/lib.rs"]) = none := by
  decide +kernel

end SourceAtlas.ImportGrowth

/-! What the importing file does to its own imports. A file is no dependency of itself, and this is
checked once, on the answer of the whole search. So the importing file hides whatever the search
would have found behind it, and changes nothing where something else is found first. -/
namespace SourceAtlas.ImportShadows
open SortedLists ImportGrowth ImportTargets Import

/-- What the search for an import comes upon first, be it the importing file. -/
def found? (family : Family) (file spec : String) (known : KnownFiles) : Option String :=
  (search family file (Text.trim spec) known).findSome? (Probe.find? known)

theorem found_known (found : found? family file spec known = some path) : path ∈ known.paths := by
  obtain ⟨probe, -, hit⟩ := List.exists_of_findSome?_eq_some found
  exact find_known hit

theorem resolve_found (family : Family) (file spec : String) (known : KnownFiles) :
    resolve family file spec known =
      if (Text.trim spec).isEmpty then none else (found? family file spec known).filter (· != file) :=
  rfl

private theorem without_grown (listed : file ∈ paths) :
    Grown (.ofList (paths.filter (· ≠ file))) file (.ofList paths) := by
  refine ⟨ofTexts_increasing _, ofTexts_increasing _, fun other => ?_⟩
  simp only [KnownFiles.ofList, mem_ofTexts, List.mem_filter, decide_eq_true_eq]
  constructor
  · intro member
    by_cases own : other = file
    · exact .inl own
    · exact .inr ⟨member, own⟩
  · rintro (rfl | ⟨member, -⟩)
    · exact listed
    · exact member

/-- With the importing file a search comes upon what it finds without it, or upon that file. -/
theorem found_without (other : family ≠ .rust) (file spec : String) (paths : List String) :
    KeptOr file (found? family file spec (.ofList (paths.filter (· ≠ file))))
      (found? family file spec (.ofList paths)) := by
  by_cases listed : file ∈ paths
  · have fixed : search family file (Text.trim spec) (.ofList paths) =
        search family file (Text.trim spec) (.ofList (paths.filter (· ≠ file))) :=
      search_fixed (fun rust => absurd rust other) file _ _
    rw [found?, found?, fixed]
    exact search_grown (without_grown listed) _
  · have unchanged : paths.filter (· ≠ file) = paths := by
      refine List.filter_eq_self.mpr fun path member => decide_eq_true ?_
      rintro rfl
      exact listed member
    rw [unchanged]
    exact .inl rfl

theorem found_not_own (family : Family) (file spec : String) (paths : List String) :
    found? family file spec (.ofList (paths.filter (· ≠ file))) ≠ some file := by
  intro own
  have member := (mem_ofTexts _ _).mp (found_known own)
  simp at member

/-- An import leads where it would lead if its own file were not known, unless its own file is what
the search comes upon first: then it leads nowhere. Modules in crates are left out, because where a
crate starts depends on the known files. -/
theorem own_file_ends_search {family : Family} (other : family ≠ .rust) (file spec : String)
    (paths : List String) :
    resolve family file spec (.ofList paths) =
      if found? family file spec (.ofList paths) = some file then none
      else resolve family file spec (.ofList (paths.filter (· ≠ file))) := by
  rw [resolve_found, resolve_found]
  rcases found_without other file spec paths with same | own
  · rw [same, if_neg (found_not_own family file spec paths)]
  · rw [own]
    simp

/-- A source file beside a component of the same name: the name stands for the source file itself,
so importing it there leads nowhere. -/
theorem own_name_leads_nowhere :
    Family.javascript ≠ .rust ∧
      found? .javascript "src/a.ts" "./a" (.ofList ["src/a.ts", "src/a.tsx"]) = some "src/a.ts" ∧
      resolve .javascript "src/a.ts" "./a" (.ofList ["src/a.ts", "src/a.tsx"]) =
        if found? .javascript "src/a.ts" "./a" (.ofList ["src/a.ts", "src/a.tsx"]) =
            some "src/a.ts" then none
        else resolve .javascript "src/a.ts" "./a"
          (.ofList (["src/a.ts", "src/a.tsx"].filter (· ≠ "src/a.ts"))) := by
  have other : Family.javascript ≠ .rust := by decide
  exact ⟨other, by decide +kernel, own_file_ends_search other _ _ _⟩

/-- A module that imports a namesake at the root: the search looks beside the module first, comes upon
the module itself and ends there. -/
theorem namesake_is_hidden :
    resolve .python "a/util.py" "util" (.ofList ["a/util.py", "util.py"]) = none ∧
      resolve .python "a/util.py" "util"
        (.ofList (["a/util.py", "util.py"].filter (· ≠ "a/util.py"))) = some "util.py" := by
  decide +kernel

end SourceAtlas.ImportShadows
