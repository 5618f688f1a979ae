import SourceAtlas.Extraction.Basic
import SourceAtlas.Proofs.RosterInvariants
import SourceAtlas.Proofs.SyntaxNesting

/-! Which definition a qualifier belongs to. The search climbs from the qualifier to the nearest kept
definition and gives up where something bars the way. A qualifier other than a throw says something
about the definition it reaches and about no other, so what reaches nothing might as well not be
there. -/
namespace SourceAtlas

/-- What the query of its language captures in a file. -/
def Reading.captures (r : Reading) : List Capture :=
  r.language.query.run r.tree

theorem Reading.extract_eq (r : Reading) : r.extract = r.extractFrom r.captures :=
  rfl

theorem Reading.rust_captures {r : Reading} (rust : r.language = .rust) :
    r.captures = Query.rust.run r.tree := by
  unfold Reading.captures
  rw [rust]
  rfl

theorem Reading.rust_conventions {r : Reading} (rust : r.language = .rust) :
    r.conventions = Conventions.Rust.conventions := by
  unfold Reading.conventions
  rw [rust]
  rfl

namespace QualifierOwners
open RosterInvariants SyntaxNesting

/-- The symbol that some captures give a definition. -/
def symbolOf (r : Reading) (captures : List Capture) (d : Definition) : Symbol :=
  r.complete (r.marks (r.roster captures) captures) d

/-- The search for an owner ends at this node: it is a parameter, or it holds locals and no kept
definition is directly around it. -/
def Bars (r : Reading) (roster : Roster) (node : Nat) : Prop :=
  Text.contains "parameter" (r.tree.kind node) = true ∨
    (r.isScope node = true ∧ ∀ outer ∈ r.tree.parent? node, roster.keeps outer = false)

instance (r : Reading) (roster : Roster) (node : Nat) : Decidable (Bars r roster node) :=
  inferInstanceAs (Decidable (_ ∨ (_ ∧ ∀ outer ∈ r.tree.parent? node, _)))

/-- The nearest kept definition around a node is the one at `owner`, and nothing in between bars the
way to it. -/
structure Reaches (r : Reading) (roster : Roster) (node owner : Nat) : Prop where
  kept : roster.keeps owner = true
  way : ∃ inner outer, r.tree.ancestors node = inner ++ owner :: outer ∧
    ∀ between ∈ inner, roster.keeps between = false ∧ ¬ Bars r roster between

/-- Above rows that are not kept the way goes on from the last of them, if none of them bars it. -/
theorem reaches_through {r : Reading} {roster : Roster} {inner outer : List Nat}
    (split : r.tree.ancestors node = inner ++ middle :: outer)
    (unkept : ∀ row ∈ inner ++ [middle], roster.keeps row = false) (owner : Nat) :
    Reaches r roster node owner ↔
      (∀ row ∈ inner ++ [middle], ¬ Bars r roster row) ∧ Reaches r roster middle owner := by
  have chain : node :: r.tree.ancestors node = (node :: inner) ++ middle :: outer := by
    rw [split]
    rfl
  obtain rfl := around_split chain
  constructor
  · rintro ⟨kept, inner', outer', split', free⟩
    have same : (inner ++ [middle]) ++ r.tree.ancestors middle = inner' ++ owner :: outer' := by
      rw [← split', split, List.append_assoc]
      rfl
    rcases List.append_eq_append_iff.mp same with ⟨further, rfl, rest⟩ | ⟨further, front, rest⟩
    · refine ⟨fun row member => (free row (List.mem_append_left _ member)).2, kept, further, outer',
        rest, fun row member => free row (List.mem_append_right _ member)⟩
    · cases further with
      | nil =>
        rw [List.append_nil] at front
        refine ⟨fun row member => (free row (front ▸ member)).2, kept, [], outer', rest.symm, ?_⟩
        simp
      | cons first further =>
        -- the owner would be one of the rows that are not kept
        obtain ⟨rfl, -⟩ := List.cons.inj rest
        have absent := unkept owner (by simp [front])
        rw [kept] at absent
        cases absent
  · rintro ⟨free, kept, inner', outer', split', free'⟩
    refine ⟨kept, inner ++ middle :: inner', outer', by rw [split, split']; simp, ?_⟩
    intro row member
    rcases List.mem_append.mp (List.append_cons inner middle inner' ▸ member) with below | beyond
    · exact ⟨unkept row below, free row below⟩
    · exact free' row beyond

/-- One step of the search. -/
private theorem ownerAmong_cons (r : Reading) (roster : Roster) (node : Nat) :
    r.ownerAmong? roster (node :: r.tree.ancestors node) =
      if roster.keeps node = true then some node
      else if Bars r roster node then none
      else r.ownerAmong? roster (r.tree.ancestors node) := by
  have barred : Bars r roster node ↔ Text.contains "parameter" (r.tree.kind node) = true ∨
      (r.isScope node && !(r.tree.parent? node).any roster.keeps) = true := by
    cases above : r.tree.parent? node <;> simp [Bars, above]
  conv_lhs => unfold Reading.ownerAmong?
  by_cases parameter : Text.contains "parameter" (r.tree.kind node) = true
  · simp [barred, parameter]
  · simp only [barred, parameter, Bool.false_eq_true, if_false, false_or, SyntaxTree.parent?]

/-- The search among the rows around a node finds the definition that the node reaches. -/
theorem owner_iff (r : Reading) (roster : Roster) (node owner : Nat) :
    r.ownerAmong? roster (r.tree.ancestors node) = some owner ↔ Reaches r roster node owner := by
  generalize chain : r.tree.ancestors node = rows
  induction rows generalizing node with
  | nil =>
    constructor
    · intro found
      cases found
    · intro reaches
      obtain ⟨inner, outer, split, -⟩ := reaches.way
      rw [chain] at split
      cases inner <;> cases split
  | cons first rest ih =>
    have start : node :: r.tree.ancestors node = [node] ++ first :: rest := by
      rw [chain]
      rfl
    have above := around_split start
    rw [above, ownerAmong_cons]
    by_cases kept : roster.keeps first = true
    · rw [if_pos kept, Option.some.injEq]
      constructor
      · rintro rfl
        exact ⟨kept, [], rest, chain, by simp⟩
      · intro reaches
        obtain ⟨inner, outer, split, free⟩ := reaches.way
        rw [chain] at split
        cases inner with
        | nil => exact (List.cons.inj split).1
        | cons head inner =>
          obtain ⟨rfl, -⟩ := List.cons.inj split
          have absent := (free first List.mem_cons_self).1
          rw [kept] at absent
          cases absent
    · have passed : roster.keeps first = false := Bool.eq_false_iff.mpr kept
      have climb : Reaches r roster node owner ↔
          (∀ row ∈ [] ++ [first], ¬ Bars r roster row) ∧ Reaches r roster first owner :=
        reaches_through chain (by simpa using passed) owner
      rw [if_neg kept, climb]
      by_cases barred : Bars r roster first
      · simp [barred]
      · rw [if_neg barred, ← above, ih first above.symm]
        simp [barred]

section
variable {r : Reading} {roster : Roster} {capture : Capture} {qualifier : Qualifier}

/-- A qualifier other than a throw marks the owner that is found for it. -/
theorem marksOf_eq (role : capture.role = .qualifier qualifier) (other : qualifier ≠ .throws) :
    r.marksOf roster capture = ((r.ownerAmong? roster (r.tree.ancestors capture.node)).map
      (⟨·, qualifier, capture.node⟩)).toList := by
  unfold Reading.marksOf
  rw [role]
  cases qualifier with
  | throws => exact absurd rfl other
  | _ => rfl

/-- The marks of a qualifier other than a throw: one on the definition it reaches. -/
theorem mem_marksOf (role : capture.role = .qualifier qualifier) (other : qualifier ≠ .throws)
    (mark : Mark) : mark ∈ r.marksOf roster capture ↔ Reaches r roster capture.node mark.owner ∧
      mark.qualifier = qualifier ∧ mark.node = capture.node := by
  rw [marksOf_eq role other, Option.mem_toList, Option.map_eq_some_iff]
  constructor
  · rintro ⟨owner, found, rfl⟩
    exact ⟨(owner_iff ..).mp found, rfl, rfl⟩
  · rintro ⟨reaches, rfl, here⟩
    exact ⟨mark.owner, (owner_iff ..).mpr reaches, by rw [← here]⟩

/-- The marks with one capture more: its own stand between those of the captures around it. -/
theorem marks_split (r : Reading) (roster : Roster) (before after : List Capture)
    (capture : Capture) : r.marks roster (before ++ capture :: after) =
      r.marks roster before ++ (r.marksOf roster capture ++ r.marks roster after) := by
  simp [Reading.marks]

/-- A capture that marks nothing at a node adds nothing to the attributes there. -/
theorem attributes_without (unmarked : ∀ mark ∈ r.marksOf roster capture, mark.owner ≠ node)
    (before after : List Capture) :
    r.attributes (r.marks roster (before ++ after)) node =
      r.attributes (r.marks roster (before ++ capture :: after)) node := by
  have none : (r.marksOf roster capture).filter (·.owner == node) = [] := by
    simpa [List.filter_eq_nil_iff] using unmarked
  have together : r.marks roster (before ++ after) = r.marks roster before ++ r.marks roster after := by
    simp [Reading.marks]
  rw [Reading.attributes, Reading.attributes, marks_split, together, List.filter_append,
    List.filter_append, List.filter_append, none, List.nil_append]

/-- A symbol depends on the marks only through the attributes of its own node. -/
theorem complete_congr (same : r.attributes marks d.node = r.attributes marks' d.node) :
    r.complete marks d = r.complete marks' d := by
  unfold Reading.complete
  rw [same]

/-- A qualifier that does not reach a definition has no part in its symbol. -/
theorem complete_without (role : capture.role = .qualifier qualifier) (other : qualifier ≠ .throws)
    (d : Definition) (unreached : ¬ Reaches r roster capture.node d.node)
    (before after : List Capture) :
    r.complete (r.marks roster (before ++ after)) d =
      r.complete (r.marks roster (before ++ capture :: after)) d := by
  refine complete_congr (attributes_without (fun mark member here => ?_) before after)
  exact unreached (here ▸ ((mem_marksOf role other mark).mp member).1)

/-- Captures that declare nothing may be left out of what the roster is made of. -/
theorem roster_without (r : Reading) (declares : ∀ kind, capture.role ≠ .definition kind)
    (before after : List Capture) :
    r.roster (before ++ after) = r.roster (before ++ capture :: after) := by
  have same := roster_passed r before declares
  rw [List.append_cons]
  unfold Reading.roster at same ⊢
  rw [List.foldl_append, List.foldl_append, same]

/-- What reaches no definition leaves no trace in what a file contributes. -/
theorem extractFrom_without {before after : List Capture}
    (role : capture.role = .qualifier qualifier) (other : qualifier ≠ .throws)
    (unreached : ∀ owner, ¬ Reaches r (r.roster (before ++ capture :: after)) capture.node owner) :
    r.extractFrom (before ++ after) = r.extractFrom (before ++ capture :: after) := by
  have declares : ∀ kind, capture.role ≠ .definition kind := by
    rw [role]
    nofun
  have silent : r.relationsOf (r.roster (before ++ capture :: after)) capture = [] := by
    simp [Reading.relationsOf, role]
  simp only [Reading.extractFrom, roster_without r declares before after, Extraction.mk.injEq,
    List.cons.injEq, true_and]
  constructor
  · refine List.map_congr_left fun d _ => ?_
    exact complete_without role other d (unreached d.node) before after
  · simp [Reading.relations, silent]

end

end QualifierOwners
end SourceAtlas
