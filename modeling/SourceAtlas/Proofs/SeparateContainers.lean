import Mathlib.Data.List.Nodup
import SourceAtlas.Proofs.SettledNesting

/-! Containers that may not be split are never merged. Outside the one family with split containers a
member path is recorded for a node only together with a definition of that node, and the path is what
the id of the definition says behind the file. Ids are taken once, so paths are too. -/
namespace SourceAtlas.SeparateContainers
open RosterInvariants MemberPaths ContainerMembers QualifierOwners ExtractionShape SettledNesting

/-- The nearest row around a node that the roster has a member path for. -/
structure Hosts (r : Reading) (roster : Roster) (node host : Nat) (path : String) : Prop where
  around : ∃ inner outer, r.tree.ancestors node = inner ++ host :: outer ∧
    ∀ between ∈ inner, roster.memberPath? between = none
  recorded : roster.memberPath? host = some path

/-- A definition of the finished roster that was judged behind the captures `before`. -/
structure KeptBehind (r : Reading) (before : List Capture) (d : Definition) : Prop where
  declared : ∃ kind, Declares r r.captures before kind d.node ∧
    d = r.candidate (r.roster before) kind d.node
  added : ∃ later, (r.roster r.captures).kept = (r.roster before).kept ++ d :: later

/-- No container of a file is merged with another one. A container is a node with a member path. One
whose id was taken has none: what stands in it belongs to the nearest container around it. -/
structure Unmerged (r : Reading) : Prop where
  injective : ∀ node other path, (r.roster r.captures).memberPath? node = some path →
    (r.roster r.captures).memberPath? other = some path → node = other
  named : ∀ node path, (r.roster r.captures).memberPath? node = some path →
    ∃ container ∈ (r.roster r.captures).kept, container.node = node ∧
      container.symbol.kind.qualifiesMembers = true ∧
        container.symbol.id = r.file.path ++ "#" ++ path
  apart : ∀ before d host path before' d' host' path', KeptBehind r before d →
    Hosts r (r.roster before) d.node host path → KeptBehind r before' d' →
      Hosts r (r.roster before') d'.node host' path' → host ≠ host' → path ≠ path'
  first : ∀ before d host path, KeptBehind r before d →
    Hosts r (r.roster before) d.node host path → QualifiedBy r (r.roster before).kept d path ∧
      ∃ container ∈ (r.roster before).kept, container.node = host ∧
        (symbolOf r r.captures container).id = r.file.path ++ "#" ++ path ∧
          [symbolOf r r.captures container, symbolOf r r.captures d].Sublist r.extract.symbols
  members : ∀ d ∈ (r.roster r.captures).kept, d.isMember = true →
    ∃ before, KeptBehind r before d ∧ ((∃ host path, Hosts r (r.roster before) d.node host path) ∨
      (r.conventions.detachedOwner? r.tree d.node).isSome = true)
  settled : Layered r.tree r.captures → ∀ before d host path, KeptBehind r before d →
    (Hosts r (r.roster before) d.node host path ↔ Hosts r (r.roster r.captures) d.node host path)

/-- What qualifies a node is the path of the nearest row around it that has one. -/
theorem enclosing_iff_hosts (r : Reading) (roster : Roster) (node : Nat) (path : String) :
    r.enclosingPath? roster node = some path ↔ ∃ host, Hosts r roster node host path := by
  constructor
  · intro enclosed
    obtain ⟨inner, host, outer, chain, recorded, between⟩ := List.findSome?_eq_some_iff.mp enclosed
    exact ⟨host, ⟨inner, outer, chain, between⟩, recorded⟩
  · rintro ⟨host, ⟨inner, outer, chain, between⟩, recorded⟩
    exact List.findSome?_eq_some_iff.mpr ⟨inner, host, outer, chain, recorded, between⟩

/-- Every kept definition was judged behind some captures. -/
theorem kept_behind {r : Reading} (kept : d ∈ (r.roster r.captures).kept) :
    ∃ before, KeptBehind r before d := by
  obtain ⟨earlier, later, parts⟩ := List.append_of_mem kept
  obtain ⟨before, kind, declares, rfl, made⟩ := kept_declared parts
  exact ⟨before, ⟨kind, declares, made⟩, later, parts⟩

/-- What a definition was judged behind is the beginning of the captures. -/
theorem KeptBehind.early (behind : KeptBehind r before d) : before <+: r.captures := by
  obtain ⟨kind, declares, -⟩ := behind.declared
  obtain ⟨capture, after, split, -⟩ := declares.captured
  exact split ▸ List.prefix_append before _

/-- One family alone splits containers, or qualifies members by anything but the path of the
container itself. -/
theorem unsplit_conventions {family : Family} (unsplit : family ≠ .rust) :
    family.conventions.merges = (fun _ => false) ∧
      family.conventions.memberPath = fun _ _ _ qualified => qualified := by
  cases family with
  | rust => exact absurd rfl unsplit
  | _ => exact ⟨rfl, rfl⟩

section
variable {r : Reading} (unsplit : r.language.family ≠ .rust)
include unsplit

/-- The path for the members of a candidate is what its id says behind the file. -/
theorem candidate_named {roster : Roster}
    (members : (r.candidate roster kind node).memberPath = some path) :
    (r.candidate roster kind node).symbol.id = r.file.path ++ "#" ++ path := by
  have container := candidate_container members
  have unmarked : (r.candidate roster kind node).symbol.kind ≠ .markupElement := by
    intro element
    rw [element] at container
    cases container
  have plain := (unsplit_conventions unsplit).2
  simp only [Reading.candidate, Reading.conventions, plain] at members container unmarked ⊢
  rw [if_pos container, Option.some.injEq] at members
  rw [if_neg (by simpa using unmarked), members]

/-- A member path is recorded for a node together with a container of that node and of that name. -/
theorem recorded_kept (recorded : (r.roster captures).memberPath? node = some path) :
    ∃ container ∈ (r.roster captures).kept, container.node = node ∧
      container.symbol.kind.qualifiesMembers = true ∧
        container.symbol.id = r.file.path ++ "#" ++ path := by
  have isOpen := (memberPath_iff_open r node path captures).mp recorded
  clear recorded
  induction isOpen with
  | @now seen kind capture role here opens =>
    -- a repeat does not open its node here, so what opened it is kept
    have fresh : (r.roster seen).hasId (r.candidate (r.roster seen) kind node).symbol.id = false := by
      refine opens.joined.resolve_right fun merges => ?_
      simp [Reading.conventions, (unsplit_conventions unsplit).1] at merges
    exact ⟨_, fresh_kept ⟨⟨capture, [], rfl, role, here⟩, opens.judged⟩ fresh, rfl,
      candidate_container opens.members, candidate_named unsplit opens.members⟩
  | still _ _ ih =>
    obtain ⟨container, kept, found⟩ := ih
    exact ⟨container, (kept_grows r _ _).subset kept, found⟩

/-- A member path belongs to one node, whenever it is looked up. -/
theorem recorded_once {seen seen' : List Capture} (early : seen <+: r.captures)
    (early' : seen' <+: r.captures) (recorded : (r.roster seen).memberPath? node = some path)
    (recorded' : (r.roster seen').memberPath? other = some path) : node = other := by
  obtain ⟨rest, split⟩ := early
  obtain ⟨rest', split'⟩ := early'
  obtain ⟨container, kept, rfl, -, id⟩ := recorded_kept unsplit recorded
  obtain ⟨container', kept', rfl, -, id'⟩ := recorded_kept unsplit recorded'
  have finished : container ∈ (r.roster r.captures).kept := by
    rw [← split]
    exact (kept_grows r seen rest).subset kept
  have finished' : container' ∈ (r.roster r.captures).kept := by
    rw [← split']
    exact (kept_grows r seen' rest').subset kept'
  have same := List.inj_on_of_nodup_map (extract_sound r).ids finished finished' (id.trans id'.symm)
  rw [same]

end

/-- A definition inside a container is no element, so its id may be qualified. -/
theorem nested_unmarked {r : Reading} (behind : KeptBehind r before d)
    (hosts : Hosts r (r.roster before) d.node host path) : d.symbol.kind ≠ .markupElement := by
  obtain ⟨kind, declares, made⟩ := behind.declared
  obtain ⟨capture, after, split, role, -⟩ := declares.captured
  have carries : CarriesContainer r r.captures host := by
    rw [split]
    exact open_carries ((memberPath_iff_open ..).mp hosts.recorded) _
  have captured : kind ≠ .markupElement := by
    rintro rfl
    have member : capture ∈ r.language.query.run r.tree := by
      rw [← Reading.captures, split]
      simp
    exact markup_has_no_containers (element_in_markup member role) host carries
  rw [made]
  exact candidate_avoids captured (by decide) r _ _

/-- Definitions come out in the order in which they were kept. -/
theorem extract_in_order {r : Reading} (kept : earlier ++ d :: later = (r.roster r.captures).kept)
    (member : container ∈ earlier) :
    [symbolOf r r.captures container, symbolOf r r.captures d].Sublist r.extract.symbols := by
  have pair : [container, d].Sublist (r.roster r.captures).kept := by
    rw [← kept]
    exact (List.singleton_sublist.mpr member).append ((List.nil_sublist later).cons_cons d)
  exact (pair.map (symbolOf r r.captures)).cons _

/-- A member has a container around it, or its owner is declared elsewhere. -/
theorem member_owned {r : Reading} (behind : KeptBehind r before d) (isMember : d.isMember = true) :
    (∃ host path, Hosts r (r.roster before) d.node host path) ∨
      (r.conventions.detachedOwner? r.tree d.node).isSome = true := by
  obtain ⟨kind, -, made⟩ := behind.declared
  have owned : ((r.enclosingPath? (r.roster before) d.node).or
      (r.conventions.detachedOwner? r.tree d.node)).isSome = true := by
    rw [made] at isMember
    exact isMember
  cases enclosed : r.enclosingPath? (r.roster before) d.node with
  | none =>
    rw [enclosed, Option.none_or] at owned
    exact .inr owned
  | some path =>
    obtain ⟨host, hosts⟩ := (enclosing_iff_hosts ..).mp enclosed
    exact .inl ⟨host, path, hosts⟩

/-- Where ranges nest, a container around a definition is the nearest one in the end if it was when
the definition was judged. -/
theorem hosts_settled {r : Reading} (layered : Layered r.tree r.captures)
    (behind : KeptBehind r before d) : Hosts r (r.roster before) d.node host path ↔
      Hosts r (r.roster r.captures) d.node host path := by
  obtain ⟨kind, declares, -⟩ := behind.declared
  obtain ⟨capture, after, split, role, here⟩ := declares.captured
  have same (outer : Nat) (around : outer ∈ r.tree.ancestors d.node) :
      (r.roster r.captures).memberPath? outer = (r.roster before).memberPath? outer := by
    rw [← here] at around
    rw [split, memberPath_behind r before _ (around_settled layered split role around)]
  constructor
  · rintro ⟨⟨inner, outer, chain, between⟩, recorded⟩
    refine ⟨⟨inner, outer, chain, fun row inside => ?_⟩, ?_⟩
    · rw [same row (by simp [chain, inside]), between row inside]
    · rw [same host (by simp [chain]), recorded]
  · rintro ⟨⟨inner, outer, chain, between⟩, recorded⟩
    refine ⟨⟨inner, outer, chain, fun row inside => ?_⟩, ?_⟩
    · rw [← same row (by simp [chain, inside]), between row inside]
    · rw [← same host (by simp [chain]), recorded]

/-- In every file of a family that does not split containers, no two containers are merged. -/
theorem containers_stay_apart {r : Reading} (unsplit : r.language.family ≠ .rust) : Unmerged r where
  injective _ _ _ recorded recorded' :=
    recorded_once unsplit (List.prefix_refl _) (List.prefix_refl _) recorded recorded'
  named _ _ recorded := recorded_kept unsplit recorded
  apart before d host path before' d' host' path' behind hosts behind' hosts' other same := by
    subst same
    exact other (recorded_once unsplit behind.early behind'.early hosts.recorded hosts'.recorded)
  first before d host path behind hosts := by
    obtain ⟨kind, -, made⟩ := behind.declared
    obtain ⟨later, kept⟩ := behind.added
    obtain ⟨container, member, here, -, id⟩ := recorded_kept unsplit hosts.recorded
    have enclosed := (enclosing_iff_hosts ..).mpr ⟨host, hosts⟩
    refine ⟨candidate_qualified enclosed made (nested_unmarked behind hosts), container, member,
      here, ?_, extract_in_order kept.symm member⟩
    exact (complete_same r _ container).id.trans id
  members d kept isMember := by
    obtain ⟨before, behind⟩ := kept_behind kept
    exact ⟨before, behind, member_owned behind isMember⟩
  settled layered _ _ _ _ behind := hosts_settled layered behind

/-- A class with two classes of one name on one line, each with a field of one name. -/
def namesakes : Reading where
  language := .java
  file := {
    path := "Same.java"
    content := "class A \x7b class B \x7b int x; \x7d class B \x7b int x; \x7d \x7d\n"
    rows := #[
      ⟨0, "program", true, "", 0, 50, []⟩, ⟨1, "class_declaration", true, "", 0, 49, []⟩,
      ⟨2, "class", false, "", 0, 5, []⟩, ⟨2, "identifier", true, "name", 6, 7, []⟩,
      ⟨2, "class_body", true, "body", 8, 49, []⟩, ⟨3, "\x7b", false, "", 8, 9, []⟩,
      ⟨3, "class_declaration", true, "", 10, 28, []⟩, ⟨4, "class", false, "", 10, 15, []⟩,
      ⟨4, "identifier", true, "name", 16, 17, []⟩, ⟨4, "class_body", true, "body", 18, 28, []⟩,
      ⟨5, "\x7b", false, "", 18, 19, []⟩, ⟨5, "field_declaration", true, "", 20, 26, []⟩,
      ⟨6, "integral_type", true, "type", 20, 23, []⟩, ⟨7, "int", false, "", 20, 23, []⟩,
      ⟨6, "variable_declarator", true, "declarator", 24, 25, []⟩,
      ⟨7, "identifier", true, "name", 24, 25, []⟩, ⟨6, ";", false, "", 25, 26, []⟩,
      ⟨5, "\x7d", false, "", 27, 28, []⟩, ⟨3, "class_declaration", true, "", 29, 47, []⟩,
      ⟨4, "class", false, "", 29, 34, []⟩, ⟨4, "identifier", true, "name", 35, 36, []⟩,
      ⟨4, "class_body", true, "body", 37, 47, []⟩, ⟨5, "\x7b", false, "", 37, 38, []⟩,
      ⟨5, "field_declaration", true, "", 39, 45, []⟩,
      ⟨6, "integral_type", true, "type", 39, 42, []⟩, ⟨7, "int", false, "", 39, 42, []⟩,
      ⟨6, "variable_declarator", true, "declarator", 43, 44, []⟩,
      ⟨7, "identifier", true, "name", 43, 44, []⟩, ⟨6, ";", false, "", 44, 45, []⟩,
      ⟨5, "\x7d", false, "", 46, 47, []⟩, ⟨3, "\x7d", false, "", 48, 49, []⟩] }

private theorem namesakes_captures : namesakes.captures =
    [⟨.definition .classType, 1⟩, ⟨.definition .classType, 6⟩, ⟨.definition .field, 11⟩,
      ⟨.definition .classType, 18⟩, ⟨.definition .field, 23⟩] := by
  have same : [(0, 1), (0, 6), (5, 11), (0, 18), (5, 23)].Perm
      (CaptureOrder.found namesakes.language.query namesakes.tree) := by
    decide +kernel
  refine (CaptureOrder.run_of_sorted same ?_).trans ?_ <;> decide +kernel

/-- The captures before the second field of that file. -/
def beforeSecond : List Capture :=
  [⟨.definition .classType, 1⟩, ⟨.definition .classType, 6⟩, ⟨.definition .field, 11⟩,
    ⟨.definition .classType, 18⟩]

private theorem second_behind : KeptBehind namesakes beforeSecond
    (namesakes.candidate (namesakes.roster beforeSecond) .field 23) := by
  refine ⟨⟨.field, ⟨⟨⟨.definition .field, 23⟩, [], namesakes_captures, rfl, rfl⟩, ?_⟩, rfl⟩, [], ?_⟩
  · decide +kernel
  · rw [namesakes_captures]
    decide +kernel

private theorem second_hosts :
    Hosts namesakes (namesakes.roster beforeSecond) 23 18 "A.B:1" :=
  ⟨⟨[21], [4, 1, 0], by decide +kernel, by decide +kernel⟩, by decide +kernel⟩

/-- The second field belongs to the second of the two classes, which is in the output before it under
an id of its own. -/
theorem namesakes_stay_apart :
    namesakes.language.family ≠ .rust ∧
    (namesakes.roster namesakes.captures).memberPath? 6 = some "A.B" ∧
    Hosts namesakes (namesakes.roster beforeSecond) 23 18 "A.B:1" ∧
    ∃ container ∈ (namesakes.roster beforeSecond).kept, container.node = 18 ∧
      (symbolOf namesakes namesakes.captures container).id = "Same.java" ++ "#" ++ "A.B:1" ∧
        [symbolOf namesakes namesakes.captures container, symbolOf namesakes namesakes.captures
          (namesakes.candidate (namesakes.roster beforeSecond) .field 23)].Sublist
            namesakes.extract.symbols := by
  have unsplit : namesakes.language.family ≠ .rust := by decide
  have unmerged := containers_stay_apart unsplit
  refine ⟨unsplit, ?_, second_hosts, (unmerged.first _ _ _ _ second_behind second_hosts).2⟩
  rw [namesakes_captures]
  decide +kernel

end SourceAtlas.SeparateContainers
