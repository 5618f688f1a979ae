import SourceAtlas.Proofs.QualifierOwners
import SourceAtlas.Proofs.QueryCaptures

/-! The visibility of symbols in Rust. Whatever states a visibility speaks for the nearest definition
around it, and of all that speak for a definition the first decides. So a definition is as visible as
its own modifier says, if nothing else speaks for it before; and what is declared without a modifier
is private, unless something inside it speaks in its place. -/
namespace SourceAtlas.OwnVisibility
open RosterInvariants SyntaxNesting QualifierOwners QueryCaptures

/-- The first visibility that a list of statements adds stays, if each step keeps what is there. -/
theorem foldl_visibility {step : Attributes → α → Attributes}
    (first : ∀ a x, (step a x).visibility = a.visibility.or (step {} x).visibility)
    (statements : List α) (a : Attributes) : (statements.foldl step a).visibility =
      a.visibility.or (statements.findSome? fun x => (step {} x).visibility) := by
  induction statements generalizing a with
  | nil => simp
  | cons x rest ih =>
    rw [List.foldl_cons, ih, first, Option.or_assoc, List.findSome?_cons]
    cases (step {} x).visibility <;> rfl

theorem addVisibility_first (a : Attributes) (text : String) : (a.addVisibility text).visibility =
    a.visibility.or (Attributes.addVisibility {} text).visibility := by
  simp [Attributes.addVisibility]

theorem addWord_first (a : Attributes) (word : String) : (a.addWord word).visibility =
    a.visibility.or (Attributes.addWord {} word).visibility := by
  unfold Attributes.addWord
  split <;> first | exact addVisibility_first a _ | simp

theorem addModifiers_first (a : Attributes) (text : String) : (a.addModifiers text).visibility =
    a.visibility.or (Attributes.addModifiers {} text).visibility := by
  unfold Attributes.addModifiers
  rw [foldl_visibility addWord_first, foldl_visibility addWord_first, ← Option.or_assoc]
  split
  · rw [addVisibility_first]
  · simp

/-- A mark adds its visibility only where there is none yet. -/
theorem addMark_first (r : Reading) (a : Attributes) (mark : Mark) :
    (r.addMark a mark).visibility = a.visibility.or (r.addMark {} mark).visibility := by
  unfold Reading.addMark
  cases mark.qualifier with
  | visibility => exact addVisibility_first a _
  | modifiers => exact addModifiers_first a _
  | _ => simp [Attributes.addParameters, Attributes.addReturnType]

/-- The visibility that a capture states, whatever it speaks for. -/
def stated? (r : Reading) (capture : Capture) : Option Visibility :=
  match capture.role with
  | .qualifier qualifier => (r.addMark {} ⟨0, qualifier, capture.node⟩).visibility
  | _ => none

/-- The visibility that a capture states for the definition at a node. -/
def statedFor? (r : Reading) (roster : Roster) (node : Nat) (capture : Capture) :
    Option Visibility :=
  ((r.marksOf roster capture).filter (·.owner == node)).findSome? fun mark =>
    (r.addMark {} mark).visibility

private theorem throw_states_nothing (r : Reading) (roster : Roster) (node : Nat)
    (role : capture.role = .qualifier .throws) :
    statedFor? r roster node capture = none ∧ stated? r capture = none := by
  constructor
  · refine List.findSome?_eq_none_iff.mpr fun mark member => ?_
    have thrown : mark.qualifier = .throws := by
      have marked := (List.mem_filter.mp member).1
      rw [Reading.marksOf, role] at marked
      obtain ⟨owner, -, rfl⟩ := List.mem_map.mp marked
      rfl
    simp [Reading.addMark, thrown]
  · simp [stated?, role, Reading.addMark]

private theorem statedFor_eq (r : Reading) (roster : Roster) (node : Nat) (capture : Capture) :
    statedFor? r roster node capture =
      if r.ownerAmong? roster (r.tree.ancestors capture.node) = some node then stated? r capture
      else none := by
  cases role : capture.role with
  | qualifier qualifier =>
    by_cases throws : qualifier = .throws
    · subst throws
      obtain ⟨silent, unstated⟩ := throw_states_nothing r roster node role
      rw [silent, unstated, ite_self]
    · rw [statedFor?, marksOf_eq role throws, stated?, role]
      cases r.ownerAmong? roster (r.tree.ancestors capture.node) with
      | none => simp
      | some owner => by_cases here : owner = node <;> simp [here, Reading.addMark]
  | _ => simp [statedFor?, stated?, Reading.marksOf, role]

theorem statedFor_iff (r : Reading) (roster : Roster) (node : Nat) (capture : Capture)
    (visibility : Visibility) : statedFor? r roster node capture = some visibility ↔
      Reaches r roster capture.node node ∧ stated? r capture = some visibility := by
  rw [statedFor_eq, ← owner_iff]
  split <;> simp [*]

/-- The first capture that states a visibility for a definition decides it. -/
theorem attributes_visibility (r : Reading) (roster : Roster) (captures : List Capture) (node : Nat) :
    (r.attributes (r.marks roster captures) node).visibility =
      captures.findSome? (statedFor? r roster node) := by
  unfold Reading.attributes
  rw [foldl_visibility (addMark_first r), Option.none_or, Reading.marks]
  induction captures with
  | nil => rfl
  | cons capture rest ih =>
    rw [List.flatMap_cons, List.filter_append, List.findSome?_append, ih, List.findSome?_cons]
    unfold statedFor?
    split <;> simp [*]

/-- A modifier directly at a node. -/
structure Own (r : Reading) (node modifier : Nat) : Prop where
  below : r.tree.parent? modifier = some node
  named : (r.tree.row modifier).named = true
  kind : r.tree.kind modifier = "visibility_modifier"

/-- A capture states a visibility for the definition at a node and is no modifier of its own. -/
structure Strays (r : Reading) (node : Nat) (capture : Capture) : Prop where
  reaches : Reaches r (r.roster r.captures) capture.node node
  states : (stated? r capture).isSome = true
  foreign : ¬ (capture.role = .qualifier .visibility ∧ Own r node capture.node)

/-- What neither strays nor is a modifier of the definition states nothing for it. -/
theorem unstated (stray : ¬ Strays r node capture)
    (foreign : ¬ (capture.role = .qualifier .visibility ∧ Own r node capture.node)) :
    statedFor? r (r.roster r.captures) node capture = none := by
  by_contra states
  obtain ⟨visibility, states⟩ := Option.ne_none_iff_exists'.mp states
  obtain ⟨reaches, states⟩ := (statedFor_iff ..).mp states
  exact stray ⟨reaches, by simp [states], foreign⟩

section
variable {r : Reading} (rust : r.language = .rust)
include rust

/-- In Rust what states no visibility is private. -/
theorem rust_complete_visibility (marks : List Mark) (d : Definition) :
    (r.complete marks d).visibility =
      some ((r.attributes marks d.node).visibility.getD .privateAccess) := by
  have kept : (r.withFields d.node (r.attributes marks d.node)
      ((r.attributes marks d.node).applyTo d.symbol)).visibility =
        (r.attributes marks d.node).visibility := by
    unfold Reading.withFields
    split <;> rfl
  simp only [Reading.complete, Reading.rust_conventions rust, Conventions.Rust.conventions, kept]
  cases (r.attributes marks d.node).visibility <;> rfl

theorem symbol_visibility (d : Definition) : (symbolOf r r.captures d).visibility =
    some ((r.captures.findSome? (statedFor? r (r.roster r.captures) d.node)).getD
      .privateAccess) := by
  rw [symbolOf, rust_complete_visibility rust, attributes_visibility]

/-- The modifier of a kept definition speaks for it. -/
theorem own_states (kept : (r.roster r.captures).keeps node = true) (own : Own r node modifier) :
    ⟨.qualifier .visibility, modifier⟩ ∈ r.captures ∧
      statedFor? r (r.roster r.captures) node ⟨.qualifier .visibility, modifier⟩ =
        Visibility.ofKeyword? (r.tree.nodeText modifier) := by
  constructor
  · rw [Reading.rust_captures rust]
    exact (rust_visibility r.tree modifier (parent_inside own.below)).mpr ⟨own.named, own.kind⟩
  · obtain ⟨outer, chain⟩ := List.head?_eq_some_iff.mp own.below
    have reaches : Reaches r (r.roster r.captures) modifier node := ⟨kept, [], outer, chain, by simp⟩
    rw [statedFor_eq, if_pos ((owner_iff ..).mpr reaches)]
    simp [stated?, Reading.addMark, Attributes.addVisibility]

/-- The first capture that states a visibility for a definition decides it. -/
theorem first_statement_decides {d : Definition} (split : r.captures = before ++ capture :: after)
    (states : statedFor? r (r.roster r.captures) d.node capture = some visibility)
    (silent : ∀ earlier ∈ before, statedFor? r (r.roster r.captures) d.node earlier = none) :
    (symbolOf r r.captures d).visibility = some visibility := by
  have found : r.captures.findSome? (statedFor? r (r.roster r.captures) d.node) = some visibility :=
    List.findSome?_eq_some_iff.mpr ⟨before, capture, after, split, states, silent⟩
  rw [symbol_visibility rust, found, Option.getD_some]

/-- A definition is as visible as its one modifier says, if nothing that strays comes before the
modifier. Without a modifier it is private if nothing strays, and else as visible as the first stray
says. -/
theorem own_visibility {d : Definition} (kept : d ∈ (r.roster r.captures).kept) :
    (∀ modifier visibility, Own r d.node modifier →
      Visibility.ofKeyword? (r.tree.nodeText modifier) = some visibility →
      (∀ other, Own r d.node other → other = modifier) →
      (∀ capture ∈ r.captures, Strays r d.node capture →
        (r.tree.row modifier).start < (r.tree.row capture.node).start) →
      (symbolOf r r.captures d).visibility = some visibility) ∧
    ((∀ modifier, ¬ Own r d.node modifier) →
      ((∀ capture ∈ r.captures, ¬ Strays r d.node capture) →
        (symbolOf r r.captures d).visibility = some .privateAccess) ∧
      ∀ before capture after visibility, r.captures = before ++ capture :: after →
        Strays r d.node capture → stated? r capture = some visibility →
        (∀ earlier ∈ before, ¬ Strays r d.node earlier) →
        (symbolOf r r.captures d).visibility = some visibility) := by
  refine ⟨fun modifier visibility own recognised only behind => ?_, fun unmodified => ⟨fun clear => ?_,
    fun before capture after visibility split stray stated clear => ?_⟩⟩
  · have keeps : (r.roster r.captures).keeps d.node = true :=
      (keeps_iff _ d.node).mpr ⟨d, kept, rfl⟩
    obtain ⟨captured, states⟩ := own_states rust keeps own
    obtain ⟨before, after, split, first⟩ := List.eq_append_cons_of_mem captured
    have order := CaptureOrder.run_starts_in_order r.language.query r.tree
    rw [← Reading.captures, split] at order
    refine first_statement_decides rust split (states.trans recognised) fun capture member => ?_
    refine unstated (fun stray => ?_) fun ⟨role, other⟩ => first ?_
    · have starts := (List.pairwise_append.mp order).2.2 capture member _ List.mem_cons_self
      have later := behind capture (by simp [split, member]) stray
      exact absurd starts (Nat.not_le.mpr later)
    · have same : capture = ⟨.qualifier .visibility, modifier⟩ := by
        rw [← role, ← only capture.node other]
      exact same ▸ member
  · have silent : r.captures.findSome? (statedFor? r (r.roster r.captures) d.node) = none :=
      List.findSome?_eq_none_iff.mpr fun capture member =>
        unstated (clear capture member) fun own => unmodified capture.node own.2
    rw [symbol_visibility rust, silent, Option.getD_none]
  · have states := (statedFor_iff r (r.roster r.captures) d.node capture visibility).mpr
      ⟨stray.reaches, stated⟩
    refine first_statement_decides rust split states fun earlier member => ?_
    exact unstated (clear earlier member) fun own => unmodified earlier.node own.2

end

/-- Two tuples with a public field each. The first has a modifier of its own, the second has none. -/
def tuples : Reading where
  language := .rust
  file := {
    path := "tuple.rs"
    content := "pub(crate) struct T(pub u8);\nstruct P(pub u8);\n"
    rows := #[
      ⟨0, "source_file", true, "", 0, 47, []⟩, ⟨1, "struct_item", true, "", 0, 28, []⟩,
      ⟨2, "visibility_modifier", true, "", 0, 10, []⟩, ⟨3, "pub", false, "", 0, 3, []⟩,
      ⟨3, "(", false, "", 3, 4, []⟩, ⟨3, "crate", true, "", 4, 9, []⟩,
      ⟨3, ")", false, "", 9, 10, []⟩, ⟨2, "struct", false, "", 11, 17, []⟩,
      ⟨2, "type_identifier", true, "name", 18, 19, []⟩,
      ⟨2, "ordered_field_declaration_list", true, "body", 19, 27, []⟩,
      ⟨3, "(", false, "", 19, 20, []⟩, ⟨3, "visibility_modifier", true, "", 20, 23, []⟩,
      ⟨4, "pub", false, "", 20, 23, []⟩, ⟨3, "primitive_type", true, "type", 24, 26, []⟩,
      ⟨3, ")", false, "", 26, 27, []⟩, ⟨2, ";", false, "", 27, 28, []⟩,
      ⟨1, "struct_item", true, "", 29, 46, []⟩, ⟨2, "struct", false, "", 29, 35, []⟩,
      ⟨2, "type_identifier", true, "name", 36, 37, []⟩,
      ⟨2, "ordered_field_declaration_list", true, "body", 37, 45, []⟩,
      ⟨3, "(", false, "", 37, 38, []⟩, ⟨3, "visibility_modifier", true, "", 38, 41, []⟩,
      ⟨4, "pub", false, "", 38, 41, []⟩, ⟨3, "primitive_type", true, "type", 42, 44, []⟩,
      ⟨3, ")", false, "", 44, 45, []⟩, ⟨2, ";", false, "", 45, 46, []⟩] }

private theorem tuples_captures : tuples.captures =
    [⟨.definition .struct, 1⟩, ⟨.qualifier .visibility, 2⟩, ⟨.qualifier .visibility, 11⟩,
      ⟨.definition .struct, 16⟩, ⟨.qualifier .visibility, 21⟩] := by
  have same : [(2, 1), (17, 2), (17, 11), (2, 16), (17, 21)].Perm
      (CaptureOrder.found tuples.language.query tuples.tree) := by
    decide +kernel
  refine (CaptureOrder.run_of_sorted same ?_).trans ?_ <;> decide +kernel

private theorem tuples_own : Own tuples 1 2 :=
  ⟨by decide +kernel, by decide +kernel, by decide +kernel⟩

/-- The modifiers that stand directly at one of the tuples. -/
private theorem tuples_modifiers (own : Own tuples node modifier) :
    (node = 1 → modifier = 2) ∧ node ≠ 16 := by
  have rows : ∀ row < tuples.tree.rows.size, tuples.tree.kind row = "visibility_modifier" →
      (tuples.tree.parent? row = some 1 → row = 2) ∧ tuples.tree.parent? row ≠ some 16 := by
    decide +kernel
  obtain ⟨first, second⟩ := rows modifier (parent_inside own.below) own.kind
  constructor
  · rintro rfl
    exact first own.below
  · rintro rfl
    exact second own.below

private theorem field_strays : Strays tuples 1 ⟨.qualifier .visibility, 11⟩ := by
  have found : tuples.ownerAmong? (tuples.roster tuples.captures) (tuples.tree.ancestors 11) =
      some 1 := by
    rw [tuples_captures]
    decide +kernel
  refine ⟨(owner_iff ..).mp found, by decide +kernel, fun own => ?_⟩
  cases (tuples_modifiers own.2).1 rfl

/-- What strays into the first tuple comes behind its modifier. -/
private theorem stray_behind (member : capture ∈ tuples.captures) (stray : Strays tuples 1 capture) :
    (tuples.tree.row 2).start < (tuples.tree.row capture.node).start := by
  have later : ∀ capture ∈ tuples.captures, capture = ⟨.definition .struct, 1⟩ ∨
      capture = ⟨.qualifier .visibility, 2⟩ ∨
        (tuples.tree.row 2).start < (tuples.tree.row capture.node).start := by
    rw [tuples_captures]
    decide +kernel
  rcases later capture member with rfl | rfl | behind
  · cases stray.states
  · exact absurd ⟨rfl, tuples_own⟩ stray.foreign
  · exact behind

/-- The modifier of the first tuple decides, although that of its field says something else. -/
theorem tuple_keeps_its_modifier :
    ∃ d ∈ (tuples.roster tuples.captures).kept, d.node = 1 ∧ d.symbol.name = "T" ∧
      Own tuples d.node 2 ∧ Strays tuples d.node ⟨.qualifier .visibility, 11⟩ ∧
      (symbolOf tuples tuples.captures d).visibility = some .internalAccess := by
  have first : ∃ d ∈ (tuples.roster tuples.captures).kept, d.node = 1 ∧ d.symbol.name = "T" := by
    rw [tuples_captures]
    decide +kernel
  obtain ⟨d, kept, here, name⟩ := first
  have internal : Visibility.ofKeyword? (tuples.tree.nodeText 2) = some .internalAccess := by
    decide +kernel
  have visibility := (own_visibility rfl kept).1 2 .internalAccess (here ▸ tuples_own) internal
    (fun other own => (tuples_modifiers own).1 here)
    fun capture member stray => stray_behind member (here ▸ stray)
  exact ⟨d, kept, here, name, here ▸ tuples_own, here ▸ field_strays, visibility⟩

/-- The second tuple has no modifier, yet it is as public as its field. -/
theorem tuple_takes_its_field_modifier :
    ∃ d ∈ (tuples.roster tuples.captures).kept, d.node = 16 ∧ d.symbol.name = "P" ∧
      (∀ modifier, ¬ Own tuples d.node modifier) ∧
      (symbolOf tuples tuples.captures d).visibility = some .publicAccess := by
  have second : ∃ d ∈ (tuples.roster tuples.captures).kept, d.node = 16 ∧ d.symbol.name = "P" ∧
      (symbolOf tuples tuples.captures d).visibility = some .publicAccess := by
    rw [tuples_captures]
    decide +kernel
  obtain ⟨d, kept, here, name, visibility⟩ := second
  exact ⟨d, kept, here, name, fun modifier own => (tuples_modifiers own).2 here, visibility⟩

end SourceAtlas.OwnVisibility
