import Mathlib.Data.List.Pairwise
import Mathlib.Order.Basic
import SourceAtlas.Query.Basic

/-! What every query promises about its captures: they come in the order of their starts, the wider
first, and none of them declares a whole file. -/
namespace SourceAtlas.CaptureOrder

private theorem inOrder_trans (t : SyntaxTree) (a b c : Nat × Nat)
    (first : Query.inOrder t a b = true) (second : Query.inOrder t b c = true) :
    Query.inOrder t a c = true := by
  simp only [Query.inOrder, Bool.or_eq_true, Bool.and_eq_true, decide_eq_true_eq, beq_iff_eq]
    at first second ⊢
  omega

private theorem inOrder_total (t : SyntaxTree) (a b : Nat × Nat) :
    (Query.inOrder t a b || Query.inOrder t b a) = true := by
  simp only [Query.inOrder, Bool.or_eq_true, Bool.and_eq_true, decide_eq_true_eq, beq_iff_eq]
  omega

/-- Of two captures the first starts earlier, or starts at the same place and ends no earlier. -/
theorem run_wider_first (query : Query) (t : SyntaxTree) :
    (query.run t).Pairwise fun a b => (t.row a.node).start < (t.row b.node).start ∨
      (t.row a.node).start = (t.row b.node).start ∧ (t.row b.node).stop ≤ (t.row a.node).stop := by
  refine List.pairwise_map.mpr (List.Pairwise.imp ?_
    (List.pairwise_mergeSort (inOrder_trans t) (inOrder_total t) _))
  rintro ⟨index, node⟩ ⟨index', node'⟩ ordered
  simp only [Query.inOrder, Bool.or_eq_true, Bool.and_eq_true, decide_eq_true_eq, beq_iff_eq]
    at ordered
  show (t.row node).start < (t.row node').start ∨
    (t.row node).start = (t.row node').start ∧ (t.row node').stop ≤ (t.row node).stop
  omega

/-- Captures come in the order in which their nodes start. -/
theorem run_starts_in_order (query : Query) (t : SyntaxTree) :
    (query.run t).Pairwise fun a b => (t.row a.node).start ≤ (t.row b.node).start := by
  refine (run_wider_first query t).imp fun wider => ?_
  omega

/-- The nodes a query finds, each with the place of its name, before they are put in order. -/
def found (query : Query) (t : SyntaxTree) : List (Nat × Nat) :=
  ((query.bindings t).filterMap fun (name, node) =>
    if Role.ofName name == .ignored then none else some (query.names.idxOf name, node)).eraseDups

/-- What is found in order stays in this order. -/
theorem run_of_ordered {query : Query} {t : SyntaxTree}
    (ordered : (found query t).Pairwise fun a b => Query.inOrder t a b = true) :
    query.run t = (found query t).map fun (index, node) =>
      ⟨Role.ofName (query.names.getD index ""), node⟩ := by
  have sorted := List.mergeSort_of_pairwise ordered
  exact congrArg _ sorted

/-- What is found in another order is put into the one strict order of its nodes. -/
theorem run_of_sorted {query : Query} {t : SyntaxTree} {sorted : List (Nat × Nat)}
    (same : sorted.Perm (found query t))
    (strict : sorted.Pairwise fun a b =>
      Query.inOrder t a b = true ∧ Query.inOrder t b a = false) :
    query.run t = sorted.map fun (index, node) =>
      ⟨Role.ofName (query.names.getD index ""), node⟩ := by
  have antisymm : ∀ a ∈ sorted, ∀ b ∈ sorted,
      Query.inOrder t a b = true → Query.inOrder t b a = true → a = b := by
    refine List.Pairwise.forall_of_forall_of_flip (fun _ _ _ _ => rfl) (strict.imp ?_) (strict.imp ?_)
    · rintro a b ⟨-, last⟩ - back
      rw [last] at back
      cases back
    · rintro a b ⟨-, last⟩ back -
      rw [last] at back
      cases back
  have arranged : (found query t).mergeSort (Query.inOrder t) = sorted := by
    refine List.Perm.eq_of_pairwise (fun a b memberA memberB => ?_)
      (List.pairwise_mergeSort (inOrder_trans t) (inOrder_total t) _) (strict.imp And.left)
      ((List.mergeSort_perm _ _).trans same.symm)
    exact antisymm a (same.mem_iff.mpr (List.mem_mergeSort.mp memberA)) b memberB
  exact congrArg _ arranged

/-- A capture that declares something has its role from a name in the query. -/
theorem run_role {query : Query} (member : capture ∈ query.run t)
    (role : capture.role = .definition kind) :
    ∃ name ∈ Pattern.capturesAll query, Role.ofName name = .definition kind := by
  obtain ⟨⟨index, node⟩, -, rfl⟩ := List.mem_map.mp member
  by_cases inside : index < query.names.length
  · refine ⟨query.names[index], List.mem_eraseDups.mp (List.getElem_mem inside), ?_⟩
    simpa [inside] using role
  · have nameless : Role.ofName (query.names.getD index "") = .ignored := by
      rw [List.getD, List.getElem?_eq_none (Nat.le_of_not_lt inside)]
      decide +kernel
    cases nameless.symm.trans role

/-- A name stands for the declaration of a kind when it is the word of the kind with an ending. -/
theorem role_word (declares : Role.ofName capture = .definition kind) :
    ∃ word, Role.definitionWord? capture = some word ∧ kind.captureWord? = some word := by
  unfold Role.ofName at declares
  split at declares
  · cases declares
  · split at declares
    · rename_i word named
      cases found : SymbolKind.ofCaptureWord? word with
      | none => simp [found] at declares
      | some other =>
        simp only [found, Option.map_some, Option.getD_some, Role.definition.injEq] at declares
        subst declares
        exact ⟨word, named, by simpa using List.find?_some found⟩
    · split at declares <;> cases declares

/-- No capture name stands for the declaration of a file. -/
theorem role_not_file (capture : String) : Role.ofName capture ≠ .definition .file := by
  intro declares
  obtain ⟨word, -, worded⟩ := role_word declares
  cases worded

/-- One capture name stands for the declaration of an element. -/
theorem role_element (declares : Role.ofName capture = .definition .markupElement) :
    capture = "element.definition" := by
  obtain ⟨word, named, worded⟩ := role_word declares
  cases worded
  unfold Role.definitionWord? at named
  dsimp only at named
  split at named
  · rename_i ending
    obtain ⟨lead, shape⟩ := List.isSuffixOf_iff_suffix.mp ending
    have word : lead = "element".toList := by
      rw [← shape, List.length_append, Nat.add_sub_cancel, List.take_left, Option.some.injEq] at named
      rw [← named, String.toList_ofList]
    rw [word] at shape
    exact String.toList_injective shape.symm
  · cases named

theorem run_declares_no_file {query : Query} (member : capture ∈ query.run t) :
    capture.role ≠ .definition .file := by
  obtain ⟨found, -, rfl⟩ := List.mem_map.mp member
  exact role_not_file _

end SourceAtlas.CaptureOrder
