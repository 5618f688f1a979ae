import SourceAtlas.Proofs.DirectoryImports
import SourceAtlas.Proofs.ImportAnswers
import SourceAtlas.Proofs.ModulePaths

/-! Going down into modules and up again. Whichever of its two files a child module has, its children
stand in the directory of its name, so `super` leads from there to the directory of the parent. A
path with one `super` for each level is searched for where the first file looks for its own
children. -/
namespace SourceAtlas.ModuleDescent
open Import ImportShadows ModulePaths

/-- The file of the module that the segments name below a directory. -/
def moduleFile? (known : KnownFiles) (dir : String) (segments : List String) : Option String :=
  (Module.probes dir segments).findSome? (Probe.find? known)

/-- The name of a child module, other than the names of files that stand for their directory. -/
structure ChildName (name : String) : Prop where
  nonempty : name ≠ ""
  ordinary : name ∉ ["lib", "main", "mod"]
  undotted : '.' ∉ name.toList
  undivided : '/' ∉ name.toList

/-- The names lead from a file to another one, each to the file that is found for it among the
children of the module before. -/
inductive Descends (known : KnownFiles) : String → List String → String → Prop
  | here : Descends known file [] file
  | down (child : ChildName name)
      (found : moduleFile? known (Module.childDirectory file) [name] = some next)
      (rest : Descends known next names last) : Descends known file (name :: names) last

theorem cutLast_append (missing : separator ∉ tail) (lead : List Char) :
    Chars.cutLast? separator (lead ++ separator :: tail) = some (lead, tail) := by
  have behind : (lead ++ separator :: tail).reverse.takeWhile (· != separator) = tail.reverse := by
    have inside : ∀ c ∈ tail.reverse, (c != separator) = true := by
      intro c member
      rw [bne_iff_ne]
      rintro rfl
      exact missing (List.mem_reverse.mp member)
    rw [List.reverse_append, List.reverse_cons, List.append_assoc,
      List.takeWhile_append_of_pos inside]
    simp
  have length : (lead ++ separator :: tail).length - tail.reverse.length - 1 = lead.length := by
    rw [List.length_append, List.length_cons, List.length_reverse]
    omega
  rw [Chars.cutLast?, if_pos (by simp), behind]
  dsimp only
  rw [length, List.take_left, List.reverse_reverse]

theorem cutLast_missing (missing : separator ∉ cs) : Chars.cutLast? separator cs = none := by
  rw [Chars.cutLast?, if_neg (by simpa using missing)]

/-- The directory around the last segment of a path, and that segment. -/
theorem within_parts (nonempty : name ≠ "") (undivided : '/' ∉ name.toList) (dir : String) :
    Path.parent (Path.within dir name) = dir ∧ Path.fileName (Path.within dir name) = name := by
  rw [Path.within]
  split
  · rename_i root
    rw [Path.parent, Path.fileName, cutLast_missing undivided]
    exact ⟨(String.isEmpty_iff.mp root).symm, rfl⟩
  · have text : (dir ++ "/" ++ name).toList = dir.toList ++ '/' :: name.toList := by simp
    rw [if_neg (by simpa using nonempty), Path.parent, Path.fileName, text,
      cutLast_append undivided]
    exact ⟨String.ofList_toList, String.ofList_toList⟩

section
variable {name : String}

/-- The children of a module in a file of its own. -/
theorem childDirectory_file (child : ChildName name) (dir : String) :
    Module.childDirectory (Path.within dir (name ++ ".rs")) = Path.within dir name := by
  have nonempty : name ++ ".rs" ≠ "" := by simp
  have undivided : '/' ∉ (name ++ ".rs").toList := by simpa using child.undivided
  obtain ⟨around, last⟩ := within_parts nonempty undivided dir
  have text : (name ++ ".rs").toList = name.toList ++ '.' :: "rs".toList := by simp
  have stem : Path.stem (Path.within dir (name ++ ".rs")) = name := by
    rw [Path.stem, last, text, cutLast_append (by decide)]
    cases shape : name.toList with
    | nil => exact absurd (String.toList_eq_nil_iff.mp shape) child.nonempty
    | cons c rest => simp [← shape]
  simp only [Module.childDirectory, stem, around]
  rw [if_neg (by simpa using child.ordinary)]

/-- The children of a module in a directory of its own. -/
theorem childDirectory_index (dir : String) :
    Module.childDirectory (Path.within dir "mod.rs") = dir := by
  obtain ⟨around, last⟩ := within_parts (by decide : "mod.rs" ≠ "") (by decide) dir
  have stem : Path.stem (Path.within dir "mod.rs") = "mod" := by
    rw [Path.stem, last]
    decide
  simp only [Module.childDirectory, stem, around]
  rfl

/-- The name of a module alone is not the path of a source file. -/
theorem name_not_source (child : ChildName name) (dir : String) :
    Text.endsWith ".rs" (Path.within dir name) = false := by
  rw [Bool.eq_false_iff]
  intro ends
  have tail : ".rs".toList <:+ name.toList := by
    rw [Text.endsWith, List.isSuffixOf_iff_suffix, Path.within] at ends
    split at ends
    · exact ends
    · rw [if_neg (by simpa using child.nonempty)] at ends
      rw [← List.reverse_prefix] at ends ⊢
      simp only [String.toList_append, List.reverse_append] at ends
      exact (prefix_before (by decide) _ _).mp ends
  exact child.undotted (tail.subset (by decide))

/-- A name is looked for in a file of its own and in a directory of its own. -/
theorem probes_single (nonempty : name ≠ "") (dir : String) :
    Module.probes dir [name] = [Path.within dir name, Path.within dir (name ++ ".rs"),
      Path.within (Path.within dir name) "mod.rs"].map Probe.path := by
  have given : name.isEmpty = false := by simpa using nonempty
  have base : (Path.within dir name).isEmpty = false := by
    rw [Path.within]
    split
    · exact given
    · simp [given]
  have alone : Text.join '/' [name] = name := by
    simp [Text.join, Chars.join]
  have file : Path.within dir name ++ "." ++ "rs" = Path.within dir (name ++ ".rs") := by
    simp only [Path.within]
    split
    · simp [String.append_assoc]
    · simp [given, String.append_assoc]
  have index : Path.within dir name ++ "/" ++ "mod.rs" =
      Path.within (Path.within dir name) "mod.rs" := by
    rw [Path.within.eq_def (Path.within dir name), base]
    rfl
  rw [← index, ← file]
  simp [Module.probes, alone, Probe.candidates, base]

/-- The step: the children of a child module stand in the directory of its name. -/
theorem childDirectory_found {known : KnownFiles}
    (sources : ∀ path ∈ known.paths, Text.endsWith ".rs" path = true) (child : ChildName name)
    (found : moduleFile? known dir [name] = some next) :
    Module.childDirectory next = Path.within dir name := by
  rw [moduleFile?, probes_single child.nonempty, DirectoryImports.findSome_paths] at found
  have listed := List.mem_of_find?_eq_some found
  have source := sources next (List.contains_iff_mem.mp (List.find?_some found))
  simp only [List.mem_cons, List.not_mem_nil, or_false] at listed
  rcases listed with rfl | rfl | rfl
  · rw [name_not_source child] at source
    cases source
  · exact childDirectory_file child dir
  · exact childDirectory_index _

end

theorem climb_super (dir : String) (segments : List String) :
    Module.climb dir ("super" :: segments) = Module.climb (Path.parent dir) segments := by
  rw [Module.climb, if_pos (beq_self_eq_true _)]

theorem climb_other (other : segments.head? ≠ some "super") (dir : String) :
    Module.climb dir segments = Module.probes dir segments := by
  cases segments with
  | nil => rfl
  | cons first rest => rw [Module.climb, if_neg (by simpa using other)]

/-- The run: as many levels up as the names led down. -/
theorem climb_descent {known : KnownFiles}
    (sources : ∀ path ∈ known.paths, Text.endsWith ".rs" path = true)
    (descends : Descends known file names last) (segments : List String) :
    Module.climb (Module.childDirectory last)
        (List.replicate names.length "super" ++ segments) =
      Module.climb (Module.childDirectory file) segments := by
  induction descends generalizing segments with
  | here => rfl
  | @down name file next names last child found rest ih =>
    have up : Path.parent (Module.childDirectory next) = Module.childDirectory file := by
      rw [childDirectory_found sources child found]
      exact (within_parts child.nonempty child.undivided _).1
    rw [List.length_cons, List.replicate_succ', List.append_assoc, ih, List.singleton_append,
      climb_super, up]

theorem super_word : Word "super".toList :=
  ⟨⟨by simp [Chars.isBlank], "supe".toList, 'r', rfl, by decide⟩, by decide⟩

theorem self_word : Word "self".toList :=
  ⟨⟨by simp [Chars.isBlank], "sel".toList, 'f', rfl, by decide⟩, by decide⟩

theorem segments_self (continues : Continues rest) :
    Module.segments ("self::" ++ rest) = "self" :: following rest := by
  have text : "self" ++ "::" = "self::" := by decide
  have read := segments_word self_word continues
  rwa [text] at read

theorem continues_of_self (read : Module.segments ("self::" ++ rest) = "self" :: segments) :
    Continues rest := by
  have text : "self::" = "self" ++ "::" := by decide
  rw [text] at read
  exact continues_of_segments self_word read

theorem segments_supers (continues : Continues rest) (count : Nat) :
    Module.segments (("super::" ++ ·)^[count + 1] rest) =
      "super" :: (List.replicate count "super" ++ following rest) := by
  have text : "super" ++ "::" = "super::" := by decide
  have read := segments_repeated super_word continues count
  rwa [text, List.replicate_succ, List.cons_append] at read

theorem search_trim (file spec : String) (known : KnownFiles) :
    Module.search file (Text.trim spec) known = Module.search file spec known := by
  rw [Module.search, Module.search, ImportGrowth.segments_trim]

theorem search_self (shape : Module.segments spec = "self" :: segments) (file : String)
    (known : KnownFiles) :
    Module.search file spec known = Module.probes (Module.childDirectory file) segments := by
  rw [Module.search, shape]
  rfl

theorem search_super (shape : Module.segments spec = "super" :: segments) (file : String)
    (known : KnownFiles) :
    Module.search file spec known =
      Module.climb (Module.childDirectory file) ("super" :: segments) := by
  rw [Module.search, shape, climb_super]
  rfl

/-- Modules below a file, when every known file is a source file and names lead down from the file to
another one. A path behind one `super` for each name leads from there to where it leads from the
first file behind `self`, unless its first segment is another `super`. A path is any text that is
read as segments behind `self`; every text whose leading colons are whole double colons is one. -/
theorem super_undoes_descent {known : KnownFiles} {file last : String} {names : List String}
    (sources : ∀ path ∈ known.paths, Text.endsWith ".rs" path = true)
    (descends : Descends known file names last) (below : names ≠ []) (rest : String) :
    (Paired rest.toList → ∃ segments, Module.segments ("self::" ++ rest) = "self" :: segments) ∧
    ∀ segments, Module.segments ("self::" ++ rest) = "self" :: segments →
      segments.head? ≠ some "super" →
        found? .rust last (("super::" ++ ·)^[names.length] rest) known =
          found? .rust file ("self::" ++ rest) known := by
  refine ⟨fun paired => ⟨_, segments_self (continues_of_paired paired)⟩, ?_⟩
  intro segments read other
  have continues := continues_of_self read
  rw [segments_self continues] at read
  cases read
  obtain ⟨count, length⟩ := Nat.exists_eq_add_one_of_ne_zero (List.length_pos_iff.mpr below).ne'
  have climbed := climb_descent sources descends (following rest)
  rw [length, List.replicate_succ, List.cons_append] at climbed
  rw [found?, found?, search, search, search_trim, search_trim, length,
    search_super (segments_supers continues count), search_self (segments_self continues), climbed,
    climb_other other]

/-- A crate with modules in both layouts. -/
def someModules : KnownFiles :=
  .ofList ["src/lib.rs", "src/graph.rs", "src/a.rs", "src/a/b/mod.rs", "src/a/b/c.rs"]

private theorem someModules_descend :
    Descends someModules "src/lib.rs" ["a", "b", "c"] "src/a/b/c.rs" := by
  have a : ChildName "a" := by constructor <;> decide
  have b : ChildName "b" := by constructor <;> decide
  have c : ChildName "c" := by constructor <;> decide
  have first : moduleFile? someModules (Module.childDirectory "src/lib.rs") ["a"] =
      some "src/a.rs" := by decide +kernel
  have second : moduleFile? someModules (Module.childDirectory "src/a.rs") ["b"] =
      some "src/a/b/mod.rs" := by decide +kernel
  have third : moduleFile? someModules (Module.childDirectory "src/a/b/mod.rs") ["c"] =
      some "src/a/b/c.rs" := by decide +kernel
  exact .down a first (.down b second (.down c third .here))

/-- Three levels up stands what the root of the crate has below it. -/
theorem three_levels_up :
    (∀ path ∈ someModules.paths, Text.endsWith ".rs" path = true) ∧
      Descends someModules "src/lib.rs" ["a", "b", "c"] "src/a/b/c.rs" ∧
      Paired "graph::Node as Vertex".toList ∧
      Module.segments ("self::" ++ "graph::Node as Vertex") = ["self", "graph", "Node"] ∧
      found? .rust "src/a/b/c.rs" "super::super::super::graph::Node as Vertex" someModules =
        some "src/graph.rs" := by
  have sources : ∀ path ∈ someModules.paths, Text.endsWith ".rs" path = true := by decide +kernel
  have paired : Paired "graph::Node as Vertex".toList := ⟨0, rfl⟩
  have read : Module.segments ("self::" ++ "graph::Node as Vertex") = ["self", "graph", "Node"] := by
    decide +kernel
  obtain ⟨-, undone⟩ := super_undoes_descent sources someModules_descend (by decide)
    "graph::Node as Vertex"
  have same := undone _ read (by decide)
  exact ⟨sources, someModules_descend, paired, read, same.trans (by decide +kernel)⟩

end SourceAtlas.ModuleDescent
