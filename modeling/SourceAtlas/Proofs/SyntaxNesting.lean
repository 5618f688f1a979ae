import Mathlib.Order.Basic
import SourceAtlas.SyntaxTree

/-! Nesting and lines of syntax trees, for every table of rows. The rows around a node form a chain:
of two of them one stands around the other. Where ranges nest, each holds the ranges of the rows
below it. A later offset never stands on an earlier line. -/
namespace SourceAtlas.SyntaxNesting

/-- `outer` is the node itself or one of its ancestors. -/
def Encloses (t : SyntaxTree) (outer node : Nat) : Prop :=
  outer ∈ node :: t.ancestors node

instance (t : SyntaxTree) (outer node : Nat) : Decidable (Encloses t outer node) :=
  inferInstanceAs (Decidable (outer ∈ node :: t.ancestors node))

private theorem enclosing_split {t : SyntaxTree} {inner outer : List Nat}
    (split : t.enclosing node depth = inner ++ middle :: outer) :
    outer = t.ancestors middle := by
  induction node generalizing depth inner with
  | zero => simp [SyntaxTree.enclosing] at split
  | succ node ih =>
    unfold SyntaxTree.enclosing at split
    split at split
    · cases inner with
      | nil =>
        obtain ⟨rfl, rfl⟩ := List.cons.inj split
        rfl
      | cons first inner =>
        obtain ⟨-, later⟩ := List.cons.inj split
        exact ih later
    · exact ih split

/-- Behind each row of the chain around a node stand exactly the ancestors of that row. -/
theorem around_split {t : SyntaxTree} {inner outer : List Nat}
    (split : node :: t.ancestors node = inner ++ middle :: outer) : outer = t.ancestors middle := by
  cases inner with
  | nil =>
    obtain ⟨rfl, rfl⟩ := List.cons.inj split
    rfl
  | cons first inner =>
    obtain ⟨-, later⟩ := List.cons.inj split
    exact enclosing_split later

/-- A row is around another one if everything between them, up to that one, is deeper. -/
private theorem mem_enclosing {t : SyntaxTree} : outer ∈ t.enclosing node depth ↔
    outer < node ∧ t.depth outer < depth ∧
      ∀ between, outer < between → between < node → t.depth outer < t.depth between := by
  induction node generalizing depth with
  | zero => simp [SyntaxTree.enclosing]
  | succ node ih =>
    unfold SyntaxTree.enclosing
    split
    · rename_i shallow
      rw [List.mem_cons, ih]
      constructor
      · rintro (rfl | ⟨before, below, deeper⟩)
        · exact ⟨Nat.lt_succ_self outer, shallow, fun between behind inside => by omega⟩
        · refine ⟨by omega, by omega, fun between behind inside => ?_⟩
          rcases Nat.lt_succ_iff_lt_or_eq.mp inside with further | rfl
          · exact deeper between behind further
          · exact below
      · rintro ⟨before, below, deeper⟩
        rcases Nat.lt_succ_iff_lt_or_eq.mp before with further | rfl
        · exact .inr ⟨further, deeper node further (Nat.lt_succ_self node),
            fun between behind inside => deeper between behind (Nat.lt_succ_of_lt inside)⟩
        · exact .inl rfl
    · rename_i deep
      rw [ih]
      constructor
      · rintro ⟨before, below, deeper⟩
        refine ⟨by omega, below, fun between behind inside => ?_⟩
        rcases Nat.lt_succ_iff_lt_or_eq.mp inside with further | rfl
        · exact deeper between behind further
        · omega
      · rintro ⟨before, below, deeper⟩
        rcases Nat.lt_succ_iff_lt_or_eq.mp before with further | rfl
        · exact ⟨further, below,
            fun between behind inside => deeper between behind (Nat.lt_succ_of_lt inside)⟩
        · exact absurd below deep

/-- The rows around a node come before it. -/
theorem ancestor_lt {t : SyntaxTree} (around : outer ∈ t.ancestors node) : outer < node :=
  (mem_enclosing.mp around).1

/-- What is around a row around a node is around the node. -/
theorem ancestor_trans {t : SyntaxTree} (outer : outermost ∈ t.ancestors middle)
    (inner : middle ∈ t.ancestors node) : outermost ∈ t.ancestors node := by
  obtain ⟨below, above, chain⟩ := List.append_of_mem inner
  rw [enclosing_split chain] at chain
  rw [chain]
  exact List.mem_append_right _ (List.mem_cons_of_mem _ outer)

/-- A node that encloses another one does not come behind it. -/
theorem encloses_le {t : SyntaxTree} (around : Encloses t outer node) : outer ≤ node := by
  rcases List.mem_cons.mp around with rfl | above
  · exact Nat.le_refl outer
  · exact Nat.le_of_lt (ancestor_lt above)

/-- The range of a child lies within that of its parent. -/
def Nested (t : SyntaxTree) : Prop :=
  ∀ node < t.rows.size, ∀ outer ∈ t.parent? node,
    (t.row outer).start ≤ (t.row node).start ∧ (t.row node).stop ≤ (t.row outer).stop

instance (t : SyntaxTree) : Decidable (Nested t) :=
  inferInstanceAs (Decidable (∀ node < t.rows.size, ∀ outer ∈ t.parent? node, _))

private theorem depth_outside (t : SyntaxTree) (outside : t.rows.size ≤ node) :
    t.depth node = 0 := by
  simp [SyntaxTree.depth, SyntaxTree.row, Array.getElem?_eq_none outside, SyntaxTree.blankRow]

private theorem ancestors_outside (t : SyntaxTree) (outside : t.rows.size ≤ node) :
    t.ancestors node = [] := by
  refine List.eq_nil_iff_forall_not_mem.mpr fun outer around => ?_
  have below := (mem_enclosing.mp around).2.1
  rw [depth_outside t outside] at below
  exact Nat.not_lt_zero _ below

/-- What has a parent is in the table. -/
theorem parent_inside {t : SyntaxTree} (below : t.parent? node = some outer) :
    node < t.rows.size := by
  by_contra outside
  rw [SyntaxTree.parent?, ancestors_outside t (Nat.le_of_not_lt outside)] at below
  cases below

/-- Where ranges nest, a node lies within all its ancestors. -/
theorem ancestor_range {t : SyntaxTree} (nested : Nested t) (around : outer ∈ t.ancestors node) :
    (t.row outer).start ≤ (t.row node).start ∧ (t.row node).stop ≤ (t.row outer).stop := by
  generalize chain : t.ancestors node = rows at around
  induction rows generalizing node with
  | nil => cases around
  | cons parent above ih =>
    have inside : node < t.rows.size := by
      by_contra outside
      rw [ancestors_outside t (Nat.le_of_not_lt outside)] at chain
      cases chain
    have within := nested node inside parent (by simp [SyntaxTree.parent?, chain])
    rcases List.mem_cons.mp around with rfl | further
    · exact within
    · have inner : node :: t.ancestors node = [node] ++ parent :: above := by rw [chain]; rfl
      have beyond := ih (around_split inner).symm further
      exact ⟨Nat.le_trans beyond.1 within.1, Nat.le_trans within.2 beyond.2⟩

private theorem mem_deeper {t : SyntaxTree} {inner : Nat} : inner ∈ t.deeper depth count first ↔
    first ≤ inner ∧ inner < first + count ∧
      ∀ between, first ≤ between → between ≤ inner → depth < t.depth between := by
  induction count generalizing first with
  | zero =>
    simp only [SyntaxTree.deeper, List.not_mem_nil, false_iff]
    omega
  | succ count ih =>
    unfold SyntaxTree.deeper
    split
    · rename_i below
      rw [List.mem_cons, ih]
      constructor
      · rintro (rfl | ⟨behind, inside, deeper⟩)
        · refine ⟨Nat.le_refl inner, by omega, fun between low high => ?_⟩
          rwa [Nat.le_antisymm high low]
        · refine ⟨by omega, by omega, fun between low high => ?_⟩
          rcases Nat.eq_or_lt_of_le low with rfl | further
          · exact below
          · exact deeper between further high
      · rintro ⟨behind, inside, deeper⟩
        rcases Nat.eq_or_lt_of_le behind with rfl | further
        · exact .inl rfl
        · exact .inr ⟨further, by omega, fun between low high => deeper between (by omega) high⟩
    · rename_i shallow
      simp only [List.not_mem_nil, false_iff]
      rintro ⟨behind, -, deeper⟩
      exact shallow (deeper first (Nat.le_refl first) behind)

/-- What stands below a node has the node around it. -/
theorem mem_descendants (t : SyntaxTree) (inner outer : Nat) :
    inner ∈ t.descendants outer ↔ outer ∈ t.ancestors inner := by
  rw [SyntaxTree.descendants, SyntaxTree.ancestors, mem_deeper, mem_enclosing]
  constructor
  · rintro ⟨behind, -, deeper⟩
    exact ⟨behind, deeper inner behind (Nat.le_refl inner),
      fun between low high => deeper between low (Nat.le_of_lt high)⟩
  · rintro ⟨before, below, deeper⟩
    have inside : inner < t.rows.size := by
      by_contra outside
      rw [depth_outside t (Nat.le_of_not_lt outside)] at below
      exact Nat.not_lt_zero _ below
    refine ⟨before, by omega, fun between low high => ?_⟩
    rcases Nat.eq_or_lt_of_le high with rfl | further
    · exact below
    · exact deeper between low further

private theorem fold_line_mono {first second : Nat} (le : first ≤ second) (cs : List Char)
    (position line line' : Nat) (below : line ≤ line') :
    (cs.foldl (fun (position, line) c =>
      (position + c.utf8Size, if c == '\n' && position < first then line + 1 else line))
        (position, line)).2 ≤
    (cs.foldl (fun (position, line) c =>
      (position + c.utf8Size, if c == '\n' && position < second then line + 1 else line))
        (position, line')).2 := by
  induction cs generalizing position line line' with
  | nil => exact below
  | cons c rest ih =>
    simp only [List.foldl_cons]
    apply ih
    by_cases feed : c = '\n'
    · by_cases early : position < first
      · have still : position < second := Nat.lt_of_lt_of_le early le
        simp only [feed, early, still, beq_self_eq_true, decide_true, Bool.and_self, ↓reduceIte]
        omega
      · simp only [feed, early, beq_self_eq_true, decide_false, Bool.and_false,
          Bool.false_eq_true, ↓reduceIte]
        split <;> omega
    · have other : (c == '\n') = false := beq_eq_false_iff_ne.mpr feed
      simpa only [other, Bool.false_and, Bool.false_eq_true, ↓reduceIte] using below

theorem lineAt_mono (t : SyntaxTree) (le : first ≤ second) : t.lineAt first ≤ t.lineAt second :=
  fold_line_mono le t.text.toList 0 1 1 (Nat.le_refl 1)

private theorem fold_line_pos (offset : Nat) (cs : List Char) (position line : Nat) :
    line ≤ (cs.foldl (fun (position, line) c =>
      (position + c.utf8Size, if c == '\n' && position < offset then line + 1 else line))
        (position, line)).2 := by
  induction cs generalizing position line with
  | nil => exact Nat.le_refl line
  | cons c rest ih =>
    simp only [List.foldl_cons]
    refine Nat.le_trans ?_ (ih _ _)
    split <;> omega

/-- Lines count from one. -/
theorem lineAt_pos (t : SyntaxTree) (offset : Nat) : 1 ≤ t.lineAt offset :=
  fold_line_pos offset t.text.toList 0 1

end SourceAtlas.SyntaxNesting
