import SourceAtlas.Proofs.CaptureOrder
import SourceAtlas.Proofs.MemberPaths
import SourceAtlas.Proofs.SyntaxNesting
import SourceAtlas.Query.Prepared

/-! Members and the containers around them. Where ranges nest, every container is judged before what
stands inside it. So a kept definition belongs to the nearest container that is open to members, and
its id is qualified by the path that the container was opened with. -/
namespace SourceAtlas.ContainerMembers
open RosterInvariants MemberPaths SyntaxNesting CaptureOrder

/-- A captured definition that is not dismissed, behind the captures `before`. -/
structure Declares (r : Reading) (captures before : List Capture) (kind : SymbolKind) (node : Nat) :
    Prop where
  captured : ∃ capture after, captures = before ++ capture :: after ∧
    capture.role = .definition kind ∧ capture.node = node
  judged : ¬ Dismissed r (r.roster before) kind node

/-- A node that declares a container, kept or not. -/
def CarriesContainer (r : Reading) (captures : List Capture) (node : Nat) : Prop :=
  ∃ before kind, Declares r captures before kind node ∧
    (r.candidate (r.roster before) kind node).symbol.kind.qualifiesMembers = true

/-- The container most closely around a node. -/
structure NearestContainer (r : Reading) (captures : List Capture) (node host : Nat) : Prop where
  around : ∃ inner outer, r.tree.ancestors node = inner ++ host :: outer ∧
    ∀ between ∈ inner, ¬ CarriesContainer r captures between
  carries : CarriesContainer r captures host

/-- A definition is itself a container, and its members would be qualified like those of an earlier
one, although its kind is not one that may be split. -/
def Clashes (r : Reading) (earlier : List Definition) (d : Definition) (qualified : String) : Prop :=
  d.symbol.kind.qualifiesMembers = true ∧ r.conventions.merges d.symbol.kind = false ∧
    ∃ other ∈ earlier,
      other.memberPath = some (r.conventions.memberPath r.tree d.symbol.kind d.node qualified)

/-- A definition is a member, and a path with its name is its id. Its line is added where it
clashes. -/
structure QualifiedBy (r : Reading) (earlier : List Definition) (d : Definition) (path : String) :
    Prop where
  isMember : d.isMember = true
  named : ¬ Clashes r earlier d (path ++ "." ++ d.symbol.name) →
    d.symbol.id = r.file.path ++ "#" ++ (path ++ "." ++ d.symbol.name)
  lined : Clashes r earlier d (path ++ "." ++ d.symbol.name) →
    d.symbol.id =
      r.file.path ++ "#" ++ (path ++ "." ++ d.symbol.name ++ ":" ++ toString d.symbol.startLine)

/-- Ranges nest, and no captured definition has the range of another one inside it. -/
structure Layered (t : SyntaxTree) (captures : List Capture) : Prop where
  nested : Nested t
  apart : ∀ inner ∈ captures, ∀ outer ∈ captures, ∀ kind kind', inner.role = .definition kind →
    outer.role = .definition kind' → outer.node ∈ t.ancestors inner.node →
      ¬ ((t.row outer.node).start = (t.row inner.node).start ∧
        (t.row outer.node).stop = (t.row inner.node).stop)

/-- Captures are layered where none has the range of a row around it. -/
theorem layered_of_apart {t : SyntaxTree} {captures : List Capture} (nested : Nested t)
    (apart : ∀ inner ∈ captures, ∀ outer ∈ t.ancestors inner.node,
      ¬ ((t.row outer).start = (t.row inner.node).start ∧
        (t.row outer).stop = (t.row inner.node).stop)) : Layered t captures :=
  ⟨nested, fun inner member outer _ _ _ _ _ around => apart inner member outer.node around⟩

/-- Later captures do not change what was declared before them. -/
theorem declares_append (declares : Declares r seen before kind node) (later : List Capture) :
    Declares r (seen ++ later) before kind node := by
  obtain ⟨own, after, rfl, role, here⟩ := declares.captured
  exact ⟨⟨own, after ++ later, by simp, role, here⟩, declares.judged⟩

/-- A kept definition is the candidate for its capture, judged against those kept before it. -/
theorem kept_declared (kept : (Reading.roster r captures).kept = earlier ++ d :: later) :
    ∃ before kind, Declares r captures before kind d.node ∧ (r.roster before).kept = earlier ∧
      d = r.candidate (r.roster before) kind d.node := by
  induction captures using List.reverseRecOn generalizing later with
  | nil => simp [Reading.roster] at kept
  | append_singleton seen capture ih =>
    have carried (rest : List Definition) (held : (r.roster seen).kept = earlier ++ d :: rest) :
        ∃ before kind, Declares r (seen ++ [capture]) before kind d.node ∧
          (r.roster before).kept = earlier ∧ d = r.candidate (r.roster before) kind d.node := by
      obtain ⟨before, kind, declares, found⟩ := ih held
      exact ⟨before, kind, declares_append declares [capture], found⟩
    by_cases defines : ∃ kind, capture.role = .definition kind
    · obtain ⟨kind, role⟩ := defines
      have judged := roster_judged r seen role
      generalize r.roster (seen ++ [capture]) = roster at judged kept
      cases judged with
      | dismissed => exact carried later kept
      | repeated => exact carried later kept
      | kept judged fresh =>
        rcases later.eq_nil_or_concat with rfl | ⟨front, last, rfl⟩
        · obtain ⟨held, added⟩ := List.append_inj' kept rfl
          obtain rfl := List.singleton_inj.mp added
          exact ⟨seen, kind, ⟨⟨capture, [], rfl, role, rfl⟩, judged⟩, held, rfl⟩
        · have longer : earlier ++ d :: front.concat last = (earlier ++ d :: front) ++ [last] := by
            simp
          exact carried front (List.append_inj' (kept.trans longer) rfl).1
    · rw [roster_passed r seen fun kind role => defines ⟨kind, role⟩] at kept
      exact carried later kept

/-- What is declared under an id that is free is kept. -/
theorem fresh_kept (declares : Declares r captures before kind node)
    (fresh : (r.roster before).hasId (r.candidate (r.roster before) kind node).symbol.id = false) :
    r.candidate (r.roster before) kind node ∈ (r.roster captures).kept := by
  obtain ⟨capture, after, rfl, role, rfl⟩ := declares.captured
  rw [List.append_cons]
  refine (kept_grows r (before ++ [capture]) after).subset ?_
  have judged := roster_judged r before role
  generalize r.roster (before ++ [capture]) = later at judged ⊢
  cases judged with
  | dismissed dismissed => exact absurd dismissed declares.judged
  | repeated _ taken =>
    rw [fresh] at taken
    cases taken
  | kept => simp

/-- Only the candidate for a container has a path for members. -/
theorem candidate_container {r : Reading} {roster : Roster}
    (members : (r.candidate roster kind node).memberPath = some path) :
    (r.candidate roster kind node).symbol.kind.qualifiesMembers = true := by
  by_contra plain
  simp only [Reading.candidate] at members plain
  rw [if_neg plain] at members
  cases members

/-- Only containers are open to members. -/
theorem open_carries (isOpen : Open r node path seen) (after : List Capture) :
    CarriesContainer r (seen ++ after) node := by
  induction isOpen generalizing after with
  | @now seen kind capture role here opens =>
    exact ⟨seen, kind, ⟨⟨capture, after, by simp, role, here⟩, opens.judged⟩,
      candidate_container opens.members⟩
  | still _ _ ih =>
    rw [List.append_assoc]
    exact ih _

theorem uncaptured_plain (elsewhere : ∀ capture ∈ captures, capture.node ≠ node) :
    ¬ CarriesContainer r captures node := by
  rintro ⟨before, kind, ⟨⟨capture, after, rfl, -, here⟩, -⟩, -⟩
  exact elsewhere capture (by simp) here

/-- Captured definitions around a node come before the captures of the node. -/
theorem outer_captured_before {t : SyntaxTree} {captures before after : List Capture}
    {inner : Capture} (layered : Layered t captures)
    (ordered : captures.Pairwise fun a b => (t.row a.node).start < (t.row b.node).start ∨
      (t.row a.node).start = (t.row b.node).start ∧ (t.row b.node).stop ≤ (t.row a.node).stop)
    (split : captures = before ++ inner :: after) (role : inner.role = .definition kind)
    (around : host ∈ t.ancestors inner.node) :
    ∀ capture ∈ inner :: after, ∀ kind', capture.role = .definition kind' → capture.node ≠ host := by
  rintro capture member kind' role' rfl
  have captured : capture ∈ captures := by
    rw [split]
    exact List.mem_append_right _ member
  have apart := layered.apart inner (by simp [split]) capture captured kind kind' role role' around
  rcases List.mem_cons.mp member with rfl | later
  · exact apart ⟨rfl, rfl⟩
  · rw [split] at ordered
    have wider := (List.pairwise_cons.mp (List.pairwise_append.mp ordered).2.1).1 capture later
    have within := ancestor_range layered.nested around
    omega

/-- Elements are captured in markup only. -/
theorem element_in_markup {language : Language} (member : capture ∈ language.query.run t)
    (role : capture.role = .definition .markupElement) : language = .html := by
  obtain ⟨name, named, declares⟩ := run_role member role
  rw [role_element declares] at named
  by_contra other
  have absent : "element.definition" ∉ Pattern.capturesAll language.query := by
    cases language with
    | html => exact absurd rfl other
    | _ => decide +kernel
  exact absent named

/-- Markup declares nothing but elements. -/
theorem markup_declares_elements (member : capture ∈ Language.html.query.run t)
    (role : capture.role = .definition kind) : kind = .markupElement := by
  obtain ⟨name, named, declares⟩ := run_role member role
  have checked : ∀ name ∈ Pattern.capturesAll Language.html.query,
      Role.ofName name = .definition .markupElement ∨ Role.ofName name = .mention .markupClass ∨
        Role.ofName name = .mention .markupId ∨ Role.ofName name = .mention .importSource := by
    decide +kernel
  rcases checked name named with element | other | other | other
  · cases element.symm.trans declares
    rfl
  all_goals cases other.symm.trans declares

/-- Elements are no containers, so there are none in markup. -/
theorem markup_has_no_containers (markup : r.language = .html) (node : Nat) :
    ¬ CarriesContainer r (r.language.query.run r.tree) node := by
  rintro ⟨before, kind, declares, container⟩
  obtain ⟨capture, after, split, role, -⟩ := declares.captured
  have member : capture ∈ Language.html.query.run r.tree := by
    rw [← markup, split]
    simp
  obtain rfl := markup_declares_elements member role
  have plain : (r.candidate (r.roster before) .markupElement node).symbol.kind = .markupElement := by
    simp [Reading.candidate, Reading.conventions, markup, Language.family, Family.conventions,
      Conventions.markup, Reading.adjustKind]
  rw [plain] at container
  cases container

private theorem clashes_iff (r : Reading) (roster : Roster) (d : Definition) (qualified : String) :
    (d.symbol.kind.qualifiesMembers &&
      roster.isTaken (r.conventions.memberPath r.tree d.symbol.kind d.node qualified) &&
        !r.conventions.merges d.symbol.kind) = true ↔ Clashes r roster.kept d qualified := by
  simp only [Clashes, Roster.isTaken, Bool.and_eq_true, Bool.not_eq_true', List.any_eq_true,
    beq_iff_eq]
  exact ⟨fun ⟨⟨container, taken⟩, unsplit⟩ => ⟨container, unsplit, taken⟩,
    fun ⟨container, unsplit, taken⟩ => ⟨⟨container, taken⟩, unsplit⟩⟩

section
variable {r : Reading} {roster : Roster} {d : Definition}
  (enclosed : r.enclosingPath? roster node = some path) (made : d = r.candidate roster kind node)
  (unmarked : d.symbol.kind ≠ .markupElement)
include enclosed made unmarked

private theorem candidate_id : d.symbol.id = r.file.path ++ "#" ++
    (if d.symbol.kind.qualifiesMembers &&
        roster.isTaken (r.conventions.memberPath r.tree d.symbol.kind d.node
          (path ++ "." ++ d.symbol.name)) && !r.conventions.merges d.symbol.kind then
      path ++ "." ++ d.symbol.name ++ ":" ++ toString d.symbol.startLine
    else path ++ "." ++ d.symbol.name) := by
  subst made
  simp only [Reading.candidate, enclosed, Option.some_or, Option.isSome_some, beq_iff_eq]
    at unmarked ⊢
  rw [if_neg unmarked]

/-- What stands inside an open container becomes its member, with its path before the name. -/
theorem candidate_qualified : QualifiedBy r roster.kept d path := by
  have id := candidate_id enclosed made unmarked
  refine ⟨?_, fun apart => ?_, fun clashes => ?_⟩
  · simp [made, Reading.candidate, enclosed]
  · rw [id, if_neg fun clash => apart ((clashes_iff r roster d _).mp clash)]
  · rw [id, if_pos ((clashes_iff r roster d _).mpr clashes)]

end

/-- The nearest container decides what qualifies a node, if it is open when the node is judged. -/
theorem enclosing_nearest {r : Reading} {before after : List Capture}
    (nearest : NearestContainer r (before ++ after) node host)
    (isOpen : Open r host path before) : r.enclosingPath? (r.roster before) node = some path := by
  obtain ⟨inner, outer, chain, between⟩ := nearest.around
  have closed : inner.findSome? (r.roster before).memberPath? = none := by
    apply List.findSome?_eq_none_iff.mpr
    intro row inside
    cases recorded : (r.roster before).memberPath? row with
    | none => rfl
    | some other =>
      have carries := open_carries ((memberPath_iff_open r row other before).mp recorded) after
      exact absurd carries (between row inside)
  rw [Reading.enclosingPath?, chain, List.findSome?_append, closed, Option.none_or,
    List.findSome?_cons, (memberPath_iff_open r host path before).mpr isOpen]

/-- A kept definition is a member of the nearest container around it, if that one is open, and its
id is qualified by the path of the container. -/
theorem member_of_nearest_container {r : Reading} {d : Definition} {earlier later : List Definition}
    {host : Nat} {path : String} (layered : Layered r.tree (r.language.query.run r.tree))
    (kept : (r.roster (r.language.query.run r.tree)).kept = earlier ++ d :: later)
    (nearest : NearestContainer r (r.language.query.run r.tree) d.node host)
    (isOpen : Open r host path (r.language.query.run r.tree)) : QualifiedBy r earlier d path := by
  obtain ⟨before, kind, declares, rfl, made⟩ := kept_declared kept
  obtain ⟨capture, after, split, role, here⟩ := declares.captured
  have around : host ∈ r.tree.ancestors capture.node := by
    obtain ⟨inner, outer, chain, -⟩ := nearest.around
    simp [here, chain]
  have unmarked : d.symbol.kind ≠ .markupElement := by
    have other : r.language ≠ .html := fun markup =>
      markup_has_no_containers markup host nearest.carries
    have captured : kind ≠ .markupElement := by
      rintro rfl
      exact other (element_in_markup (by rw [split]; simp) role)
    rw [made]
    exact candidate_avoids captured (by decide) r _ _
  -- the host is not captured again once the member is, so it was as open then as it is at the end
  have openBefore : Open r host path before := by
    have order := run_wider_first r.language.query r.tree
    have elsewhere := outer_captured_before layered order split role around
    rw [← memberPath_iff_open, split, memberPath_behind r before _ elsewhere] at isOpen
    exact (memberPath_iff_open ..).mp isOpen
  rw [split] at nearest
  exact candidate_qualified (enclosing_nearest nearest openBefore) made unmarked

/-- A class with three classes of one name on one line, the last of which has a field. -/
def twins : Reading where
  language := .java
  file := {
    path := "Twins.java"
    content := "class A \x7b class B \x7b\x7d class B \x7b\x7d class B \x7b int x; \x7d \x7d\n"
    rows := #[
      ⟨0, "program", true, "", 0, 53, []⟩, ⟨1, "class_declaration", true, "", 0, 52, []⟩,
      ⟨2, "class", false, "", 0, 5, []⟩, ⟨2, "identifier", true, "name", 6, 7, []⟩,
      ⟨2, "class_body", true, "body", 8, 52, []⟩, ⟨3, "\x7b", false, "", 8, 9, []⟩,
      ⟨3, "class_declaration", true, "", 10, 20, []⟩, ⟨4, "class", false, "", 10, 15, []⟩,
      ⟨4, "identifier", true, "name", 16, 17, []⟩, ⟨4, "class_body", true, "body", 18, 20, []⟩,
      ⟨5, "\x7b", false, "", 18, 19, []⟩, ⟨5, "\x7d", false, "", 19, 20, []⟩,
      ⟨3, "class_declaration", true, "", 21, 31, []⟩, ⟨4, "class", false, "", 21, 26, []⟩,
      ⟨4, "identifier", true, "name", 27, 28, []⟩, ⟨4, "class_body", true, "body", 29, 31, []⟩,
      ⟨5, "\x7b", false, "", 29, 30, []⟩, ⟨5, "\x7d", false, "", 30, 31, []⟩,
      ⟨3, "class_declaration", true, "", 32, 50, []⟩, ⟨4, "class", false, "", 32, 37, []⟩,
      ⟨4, "identifier", true, "name", 38, 39, []⟩, ⟨4, "class_body", true, "body", 40, 50, []⟩,
      ⟨5, "\x7b", false, "", 40, 41, []⟩, ⟨5, "field_declaration", true, "", 42, 48, []⟩,
      ⟨6, "integral_type", true, "type", 42, 45, []⟩, ⟨7, "int", false, "", 42, 45, []⟩,
      ⟨6, "variable_declarator", true, "declarator", 46, 47, []⟩,
      ⟨7, "identifier", true, "name", 46, 47, []⟩, ⟨6, ";", false, "", 47, 48, []⟩,
      ⟨5, "\x7d", false, "", 49, 50, []⟩, ⟨3, "\x7d", false, "", 51, 52, []⟩] }

/-- A definition on the first line of that file. -/
def onFirstLine (node : Nat) (kind : SymbolKind) (name own : String) (isMember : Bool)
    (memberPath : Option String) : Definition :=
  { node, isMember, memberPath
    symbol := {
      id := "Twins.java#" ++ own
      kind, name
      filePath := "Twins.java"
      startLine := 1
      endLine := 1
      language := some "java" } }

private theorem twins_found :
    found twins.language.query twins.tree = [(0, 1), (0, 6), (0, 12), (0, 18), (5, 23)] := by
  decide +kernel

private theorem twins_captures : twins.language.query.run twins.tree =
    [⟨.definition .classType, 1⟩, ⟨.definition .classType, 6⟩, ⟨.definition .classType, 12⟩,
      ⟨.definition .classType, 18⟩, ⟨.definition .field, 23⟩] := by
  have ordered : (found twins.language.query twins.tree).Pairwise
      fun a b => Query.inOrder twins.tree a b = true := by
    rw [twins_found]
    decide +kernel
  rw [run_of_ordered ordered, twins_found]
  decide +kernel

private theorem twins_roster : twins.roster (twins.language.query.run twins.tree) =
    { kept := [onFirstLine 1 .classType "A" "A" false (some "A"),
        onFirstLine 6 .classType "B" "A.B" true (some "A.B"),
        onFirstLine 12 .classType "B" "A.B:1" true (some "A.B:1"),
        onFirstLine 23 .field "x" "A.x" true none]
      repeats := [⟨18, "Twins.java#A.B:1", none⟩] } := by
  rw [twins_captures]
  decide +kernel

private theorem twins_layered : Layered twins.tree (twins.language.query.run twins.tree) := by
  rw [twins_captures]
  exact layered_of_apart (by decide +kernel) (by decide +kernel)

private theorem twin_nearest :
    NearestContainer twins (twins.language.query.run twins.tree) 12 1 := by
  rw [twins_captures]
  have container : ¬ Dismissed twins (twins.roster []) .classType 1 ∧
      (twins.candidate (twins.roster []) .classType 1).symbol.kind.qualifiesMembers = true := by
    decide +kernel
  refine ⟨⟨[4], [0], by decide +kernel, ?_⟩, ?_⟩
  · intro between inside
    obtain rfl := List.mem_singleton.mp inside
    exact uncaptured_plain (by decide)
  · exact ⟨_, _, ⟨⟨_, _, rfl, rfl, rfl⟩, container.1⟩, container.2⟩

private theorem field_nearest :
    NearestContainer twins (twins.language.query.run twins.tree) 23 18 := by
  rw [twins_captures]
  have container : ¬ Dismissed twins (twins.roster [⟨.definition .classType, 1⟩,
        ⟨.definition .classType, 6⟩, ⟨.definition .classType, 12⟩]) .classType 18 ∧
      (twins.candidate (twins.roster [⟨.definition .classType, 1⟩, ⟨.definition .classType, 6⟩,
        ⟨.definition .classType, 12⟩]) .classType 18).symbol.kind.qualifiesMembers = true := by
    decide +kernel
  refine ⟨⟨[21], [4, 1, 0], by decide +kernel, ?_⟩, ?_⟩
  · intro between inside
    obtain rfl := List.mem_singleton.mp inside
    exact uncaptured_plain (by decide)
  · exact ⟨_, _, ⟨⟨_, _, rfl, rfl, rfl⟩, container.1⟩, container.2⟩

private theorem twin_host_open : Open twins 1 "A" (twins.language.query.run twins.tree) := by
  apply (memberPath_iff_open ..).mp
  rw [twins_roster]
  rfl

/-- The second twin is a member of the class around it. Its members would be qualified like those of
the first, so its id has its line. -/
theorem second_twin_is_member :
    Layered twins.tree (twins.language.query.run twins.tree) ∧
      (twins.roster (twins.language.query.run twins.tree)).kept =
        [onFirstLine 1 .classType "A" "A" false (some "A"),
          onFirstLine 6 .classType "B" "A.B" true (some "A.B")] ++
        onFirstLine 12 .classType "B" "A.B:1" true (some "A.B:1") ::
          [onFirstLine 23 .field "x" "A.x" true none] ∧
      NearestContainer twins (twins.language.query.run twins.tree) 12 1 ∧
      Open twins 1 "A" (twins.language.query.run twins.tree) ∧
      QualifiedBy twins [onFirstLine 1 .classType "A" "A" false (some "A"),
          onFirstLine 6 .classType "B" "A.B" true (some "A.B")]
        (onFirstLine 12 .classType "B" "A.B:1" true (some "A.B:1")) "A" :=
  have kept := congrArg Roster.kept twins_roster
  ⟨twins_layered, kept, twin_nearest, twin_host_open,
    member_of_nearest_container twins_layered kept twin_nearest twin_host_open⟩

/-- The id of the second twin is not just the path of its container with its name. The third twin
would get the id of the second, so it is a repeat and not open to members: the field that stands in
it is named after the class around the twins. -/
theorem twins_are_told_apart :
    (onFirstLine 12 .classType "B" "A.B:1" true (some "A.B:1") ∈
        (twins.roster (twins.language.query.run twins.tree)).kept ∧
      NearestContainer twins (twins.language.query.run twins.tree) 12 1 ∧
      Open twins 1 "A" (twins.language.query.run twins.tree) ∧
      (onFirstLine 12 .classType "B" "A.B:1" true (some "A.B:1")).symbol.id ≠ "Twins.java#A.B") ∧
    (onFirstLine 23 .field "x" "A.x" true none ∈
        (twins.roster (twins.language.query.run twins.tree)).kept ∧
      NearestContainer twins (twins.language.query.run twins.tree) 23 18 ∧
      ¬ ∃ path, Open twins 18 path (twins.language.query.run twins.tree)) := by
  refine ⟨⟨?_, twin_nearest, twin_host_open, by decide⟩, ?_, field_nearest, ?_⟩
  · simp [twins_roster]
  · simp [twins_roster]
  · rintro ⟨path, isOpen⟩
    have recorded := (memberPath_iff_open ..).mpr isOpen
    rw [twins_roster] at recorded
    cases recorded

end SourceAtlas.ContainerMembers
