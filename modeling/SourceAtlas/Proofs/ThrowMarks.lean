import SourceAtlas.Proofs.ContainerMembers
import SourceAtlas.Proofs.QualifierOwners

/-! Which definitions may throw. A throw marks every kept definition around it, whatever stands in
between; nothing else that qualifies a definition, and no family but one, touches that mark. So the
attribute of a symbol says whether a throw stands below its node, or whether, in Go, its result
mentions an error. -/
namespace SourceAtlas.ThrowMarks
open QualifierOwners SyntaxNesting RosterInvariants ContainerMembers

/-- A throw is captured below a node, at any depth. -/
def ThrowsInside (r : Reading) (node : Nat) : Prop :=
  ∃ capture ∈ r.captures, capture.role = .qualifier .throws ∧
    capture.node ∈ r.tree.descendants node

/-- A declaration of Go whose result mentions an error. -/
def ReturnsError (r : Reading) (node : Nat) : Prop :=
  r.language = .go ∧ ∃ result ∈ r.tree.field? "result" node,
    Text.contains "error" (r.tree.nodeText result) = true

/-- A throw inside a node is inside everything around the node. -/
theorem throwsInside_outer (throws : ThrowsInside r node) (around : node ∈ r.tree.descendants outer) :
    ThrowsInside r outer := by
  obtain ⟨capture, captured, role, inside⟩ := throws
  refine ⟨capture, captured, role, ?_⟩
  rw [mem_descendants] at around inside ⊢
  exact ancestor_trans around inside

private theorem addWord_throw (a : Attributes) (word : String) :
    (a.addWord word).canThrow = a.canThrow := by
  unfold Attributes.addWord
  split <;> rfl

private theorem addModifiers_throw (a : Attributes) (text : String) :
    (a.addModifiers text).canThrow = a.canThrow := by
  have words (words : List String) (a : Attributes) :
      (words.foldl Attributes.addWord a).canThrow = a.canThrow := by
    induction words generalizing a with
    | nil => rfl
    | cons word rest ih => rw [List.foldl_cons, ih, addWord_throw]
  unfold Attributes.addModifiers
  rw [words]
  split <;> rfl

/-- Only the mark of a throw says that something may throw. -/
theorem addMark_throw (r : Reading) (a : Attributes) (mark : Mark) :
    (r.addMark a mark).canThrow = (a.canThrow || mark.qualifier == .throws) := by
  unfold Reading.addMark
  cases qualifier : mark.qualifier with
  | modifiers => simp [addModifiers_throw]
  | _ => simp [Attributes.addVisibility, Attributes.addParameters, Attributes.addReturnType]

theorem attributes_throw (r : Reading) (marks : List Mark) (node : Nat) :
    (r.attributes marks node).canThrow = true ↔
      ∃ mark ∈ marks, mark.owner = node ∧ mark.qualifier = .throws := by
  have run (marks : List Mark) (a : Attributes) : (marks.foldl r.addMark a).canThrow =
      (a.canThrow || marks.any (·.qualifier == .throws)) := by
    induction marks generalizing a with
    | nil => simp
    | cons mark rest ih => rw [List.foldl_cons, ih, addMark_throw, List.any_cons, Bool.or_assoc]
  rw [Reading.attributes, run]
  simp

/-- A kept definition is marked by the throws below its node. -/
theorem marks_throw {r : Reading} {roster : Roster} {captures : List Capture}
    (kept : roster.keeps node = true) :
    (∃ mark ∈ r.marks roster captures, mark.owner = node ∧ mark.qualifier = .throws) ↔
      ∃ capture ∈ captures, capture.role = .qualifier .throws ∧
        capture.node ∈ r.tree.descendants node := by
  simp only [Reading.marks, List.mem_flatMap, mem_descendants]
  constructor
  · rintro ⟨mark, ⟨capture, captured, marked⟩, rfl, throws⟩
    refine ⟨capture, captured, ?_⟩
    cases role : capture.role with
    | qualifier qualifier =>
      by_cases other : qualifier = .throws
      · subst other
        rw [Reading.marksOf, role] at marked
        obtain ⟨owner, listed, rfl⟩ := List.mem_map.mp marked
        exact ⟨rfl, (List.mem_filter.mp listed).1⟩
      · exact absurd (((mem_marksOf role other mark).mp marked).2.1.symm.trans throws) other
    | _ => simp [Reading.marksOf, role] at marked
  · rintro ⟨capture, captured, role, around⟩
    refine ⟨⟨node, .throws, capture.node⟩, ⟨capture, captured, ?_⟩, rfl, rfl⟩
    rw [Reading.marksOf, role]
    exact List.mem_map.mpr ⟨node, List.mem_filter.mpr ⟨around, kept⟩, rfl⟩

/-- The attributes that only one family has leave alone whether a symbol may throw, but for the
errors of Go. -/
theorem decorate_throw (language : Language) (t : SyntaxTree) (node : Nat) (symbol : Symbol) :
    (language.family.conventions.decorate t node symbol).canThrow =
      (symbol.canThrow || (language == .go && Conventions.Go.mayFail t node)) := by
  cases language with
  | ruby =>
    simp only [Language.family, Family.conventions, Conventions.ruby]
    split <;> simp
  | go => rfl
  | _ => exact (Bool.or_false _).symm

/-- What completing a definition says about throwing. -/
theorem complete_throw (r : Reading) (marks : List Mark) (d : Definition) :
    (r.complete marks d).canThrow =
      (d.symbol.canThrow || (r.attributes marks d.node).canThrow ||
        (r.language == .go && Conventions.Go.mayFail r.tree d.node)) := by
  have fields (a : Attributes) (s : Symbol) : (r.withFields d.node a s).canThrow = s.canThrow := by
    unfold Reading.withFields
    split <;> rfl
  show (r.language.family.conventions.decorate r.tree d.node _).canThrow = _
  rw [decorate_throw]
  show ((r.withFields d.node _ _).canThrow || _) = _
  rw [fields]
  rfl

/-- No definition may throw before it is marked. -/
theorem kept_throws_not {r : Reading} (kept : d ∈ (r.roster captures).kept) :
    d.symbol.canThrow = false := by
  obtain ⟨earlier, later, split⟩ := List.append_of_mem kept
  obtain ⟨before, kind, -, -, made⟩ := kept_declared split
  rw [made]
  rfl

theorem returnsError_iff (r : Reading) (node : Nat) : ReturnsError r node ↔
    (r.language == .go && Conventions.Go.mayFail r.tree node) = true := by
  simp [ReturnsError, Conventions.Go.mayFail, Option.any_eq_true]

/-- What decides whether a kept definition may throw. -/
theorem canThrow_iff {r : Reading} {d : Definition} (kept : d ∈ (r.roster r.captures).kept) :
    (symbolOf r r.captures d).canThrow = true ↔ ThrowsInside r d.node ∨ ReturnsError r d.node := by
  have keeps : (r.roster r.captures).keeps d.node = true :=
    (keeps_iff _ d.node).mpr ⟨d, kept, rfl⟩
  rw [symbolOf, complete_throw, kept_throws_not kept, Bool.false_or, Bool.or_eq_true,
    attributes_throw, marks_throw keeps, returnsError_iff]
  rfl

/-- A kept definition may throw exactly if a throw stands below its node, at any depth and whatever
lies between, or if it is one of Go and its result mentions an error. So where a throw makes a
definition one that may throw, it makes every kept definition around that one such too. -/
theorem throw_reaches_definitions_around {r : Reading} {d : Definition}
    (kept : d ∈ (r.roster r.captures).kept) :
    ((symbolOf r r.captures d).canThrow = true ↔ ThrowsInside r d.node ∨ ReturnsError r d.node) ∧
    (ThrowsInside r d.node → ∀ outer ∈ (r.roster r.captures).kept,
      d.node ∈ r.tree.descendants outer.node → (symbolOf r r.captures outer).canThrow = true) := by
  refine ⟨canThrow_iff kept, fun throws outer keptOuter around => ?_⟩
  exact (canThrow_iff keptOuter).mpr (.inl (throwsInside_outer throws around))

/-- A class with a field that is set to a function. A local function in it throws. -/
def throwingField : Reading where
  language := .javascript
  file := {
    path := "field.js"
    content := "class K \x7b y = () => \x7b function z() \x7b throw 1; \x7d \x7d; \x7d\n"
    rows := #[
      ⟨0, "program", true, "", 0, 53, []⟩, ⟨1, "class_declaration", true, "", 0, 52, []⟩,
      ⟨2, "class", false, "", 0, 5, []⟩, ⟨2, "identifier", true, "name", 6, 7, []⟩,
      ⟨2, "class_body", true, "body", 8, 52, []⟩, ⟨3, "\x7b", false, "", 8, 9, []⟩,
      ⟨3, "field_definition", true, "member", 10, 49, []⟩,
      ⟨4, "property_identifier", true, "property", 10, 11, []⟩, ⟨4, "=", false, "", 12, 13, []⟩,
      ⟨4, "arrow_function", true, "value", 14, 49, []⟩,
      ⟨5, "formal_parameters", true, "parameters", 14, 16, []⟩, ⟨6, "(", false, "", 14, 15, []⟩,
      ⟨6, ")", false, "", 15, 16, []⟩, ⟨5, "=>", false, "", 17, 19, []⟩,
      ⟨5, "statement_block", true, "body", 20, 49, []⟩, ⟨6, "\x7b", false, "", 20, 21, []⟩,
      ⟨6, "function_declaration", true, "", 22, 47, []⟩, ⟨7, "function", false, "", 22, 30, []⟩,
      ⟨7, "identifier", true, "name", 31, 32, []⟩,
      ⟨7, "formal_parameters", true, "parameters", 32, 34, []⟩, ⟨8, "(", false, "", 32, 33, []⟩,
      ⟨8, ")", false, "", 33, 34, []⟩, ⟨7, "statement_block", true, "body", 35, 47, []⟩,
      ⟨8, "\x7b", false, "", 35, 36, []⟩, ⟨8, "throw_statement", true, "", 37, 45, []⟩,
      ⟨9, "throw", false, "", 37, 42, []⟩, ⟨9, "number", true, "", 43, 44, []⟩,
      ⟨9, ";", false, "", 44, 45, []⟩, ⟨8, "\x7d", false, "", 46, 47, []⟩,
      ⟨6, "\x7d", false, "", 48, 49, []⟩, ⟨3, ";", false, "", 49, 50, []⟩,
      ⟨3, "\x7d", false, "", 51, 52, []⟩] }

private theorem throwingField_captures : throwingField.captures =
    [⟨.definition .classType, 1⟩, ⟨.definition .method, 6⟩, ⟨.definition .property, 6⟩,
      ⟨.qualifier .parameters, 10⟩, ⟨.definition .function, 16⟩, ⟨.qualifier .parameters, 19⟩,
      ⟨.qualifier .throws, 24⟩] := by
  have same : [(1, 1), (2, 6), (3, 6), (12, 10), (0, 16), (12, 19), (13, 24)].Perm
      (CaptureOrder.found throwingField.language.query throwingField.tree) := by
    decide +kernel
  refine (CaptureOrder.run_of_sorted same ?_).trans ?_ <;> decide +kernel

/-- The local function is no symbol. What it throws reaches the field and the class around that. -/
theorem local_throw_reaches_class :
    ∃ member ∈ (throwingField.roster throwingField.captures).kept, member.node = 6 ∧
      ThrowsInside throwingField member.node ∧
      (symbolOf throwingField throwingField.captures member).canThrow = true ∧
      ∃ outer ∈ (throwingField.roster throwingField.captures).kept, outer.symbol.name = "K" ∧
        (symbolOf throwingField throwingField.captures outer).canThrow = true := by
  have roster : (∃ member ∈ (throwingField.roster throwingField.captures).kept, member.node = 6) ∧
      ∃ outer ∈ (throwingField.roster throwingField.captures).kept,
        outer.symbol.name = "K" ∧ outer.node = 1 := by
    rw [throwingField_captures]
    decide +kernel
  obtain ⟨⟨member, kept, here⟩, outer, keptOuter, name, above⟩ := roster
  have throws : ThrowsInside throwingField member.node := by
    rw [here]
    refine ⟨⟨.qualifier .throws, 24⟩, ?_, rfl, by decide +kernel⟩
    simp [throwingField_captures]
  have around : member.node ∈ throwingField.tree.descendants outer.node := by
    rw [here, above]
    decide +kernel
  obtain ⟨decides, reaches⟩ := throw_reaches_definitions_around kept
  exact ⟨member, kept, here, throws, decides.mpr (.inl throws), outer, keptOuter, name,
    reaches throws outer keptOuter around⟩

end SourceAtlas.ThrowMarks
