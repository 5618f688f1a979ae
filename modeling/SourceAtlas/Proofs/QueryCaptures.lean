import SourceAtlas.Proofs.CaptureOrder
import SourceAtlas.Query.Prepared

/-! Which nodes a query captures. A pattern binds the names it mentions and no others, so where a
name occurs only in patterns that ask for nothing but a kind of node, it captures exactly the nodes
of that kind. In Rust this tells from the kind of a node what it declares, and which nodes are
visibility modifiers. -/
namespace SourceAtlas.QueryCaptures
open CaptureOrder

mutual

/-- A pattern binds only names that it captures. -/
theorem fits_names (t : SyntaxTree) (pattern : Pattern) (root : Nat) :
    ∀ bindings ∈ pattern.fits t root, ∀ binding ∈ bindings, binding.1 ∈ pattern.captures := by
  cases pattern with
  | mk test field texts children lacking capture =>
    intro bindings fits binding member
    unfold Pattern.fits at fits
    unfold Pattern.captures
    split at fits
    · obtain ⟨inner, fitted, rfl⟩ := List.mem_map.mp fits
      rcases List.mem_append.mp member with below | own
      · exact List.mem_append_left _ (fitAll_names t children _ inner fitted binding below)
      · refine List.mem_append_right _ ?_
        cases capture with
        | none => cases own
        | some name =>
          obtain rfl := List.mem_singleton.mp own
          exact List.mem_singleton.mpr rfl
    · cases fits

theorem fitAll_names (t : SyntaxTree) (patterns : List Pattern) (nodes : List Nat) :
    ∀ bindings ∈ Pattern.fitAll t patterns nodes, ∀ binding ∈ bindings,
      binding.1 ∈ Pattern.capturesAll patterns := by
  cases patterns with
  | nil =>
    intro bindings fits binding member
    unfold Pattern.fitAll at fits
    obtain rfl := List.mem_singleton.mp fits
    cases member
  | cons pattern rest =>
    intro bindings fits binding member
    unfold Pattern.fitAll at fits
    unfold Pattern.capturesAll
    obtain ⟨⟨node, behind⟩, -, fits⟩ := List.mem_flatMap.mp fits
    obtain ⟨first, fitsFirst, fits⟩ := List.mem_flatMap.mp fits
    obtain ⟨others, fitsRest, rfl⟩ := List.mem_map.mp fits
    rcases List.mem_append.mp member with here | later
    · exact List.mem_append_left _ (fits_names t pattern node first fitsFirst binding here)
    · exact List.mem_append_right _ (fitAll_names t rest behind others fitsRest binding later)

end

theorem captures_of_mem {pattern : Pattern} {query : Query} (member : pattern ∈ query) :
    pattern.captures ⊆ Pattern.capturesAll query := by
  induction query with
  | nil => cases member
  | cons first rest ih =>
    unfold Pattern.capturesAll
    rcases List.mem_cons.mp member with rfl | later
    · exact List.subset_append_left _ _
    · exact List.Subset.trans (ih later) (List.subset_append_right _ _)

theorem mem_bindings (query : Query) (t : SyntaxTree) (binding : String × Nat) :
    binding ∈ query.bindings t ↔ ∃ pattern ∈ query, ∃ root < t.rows.size,
      ∃ bindings ∈ pattern.fits t root, binding ∈ bindings := by
  simp [Query.bindings]

/-- A bound name has a place of its own among the names of the query. -/
private theorem name_at_index (bound : (name, node) ∈ Query.bindings query t) :
    query.names.getD (query.names.idxOf name) "" = name := by
  obtain ⟨pattern, member, root, -, bindings, fits, bound⟩ := (mem_bindings ..).mp bound
  have captured := captures_of_mem member (fits_names t pattern root bindings fits _ bound)
  have named : name ∈ query.names := List.mem_eraseDups.mpr captured
  have inside := List.idxOf_lt_length_iff.mpr named
  rw [List.getD_eq_getElem?_getD, List.getElem?_eq_getElem inside, Option.getD_some,
    List.getElem_idxOf]

/-- What is captured is bound to a name, and the name gives it its role. -/
theorem mem_run (query : Query) (t : SyntaxTree) (capture : Capture) :
    capture ∈ query.run t ↔ capture.role ≠ .ignored ∧
      ∃ name, Role.ofName name = capture.role ∧ (name, capture.node) ∈ query.bindings t := by
  have members : capture ∈ query.run t ↔ ∃ place ∈ found query t,
      ⟨Role.ofName (query.names.getD place.1 ""), place.2⟩ = capture := by
    simp only [Query.run, found, List.mem_map, List.mem_mergeSort]
  rw [members]
  constructor
  · rintro ⟨⟨index, node⟩, member, rfl⟩
    obtain ⟨⟨name, bound⟩, binding, made⟩ := List.mem_filterMap.mp (List.mem_eraseDups.mp member)
    dsimp only at made
    split at made
    · cases made
    · rename_i counts
      cases made
      rw [name_at_index binding]
      exact ⟨by simpa using counts, name, rfl, binding⟩
  · rintro ⟨counts, name, role, binding⟩
    refine ⟨(query.names.idxOf name, capture.node), ?_, ?_⟩
    · refine List.mem_eraseDups.mpr (List.mem_filterMap.mpr ⟨_, binding, ?_⟩)
      simp [role, counts]
    · rw [name_at_index binding, role]

/-- The kind and the capture of a pattern that asks for nothing but a kind of node. -/
def leaf? : Pattern → Option (String × String)
  | .mk (.oneOf [kind]) none none [] [] (some capture) => some (kind, capture)
  | _ => none

theorem leaf_fits {pattern : Pattern} (leaf : leaf? pattern = some (kind, capture))
    (t : SyntaxTree) (root : Nat) : pattern.fits t root =
      if (t.row root).named = true ∧ t.kind root = kind then [[(capture, root)]] else [] := by
  unfold leaf? at leaf
  split at leaf
  · cases leaf
    by_cases fitting : (t.row root).named = true ∧ t.kind root = kind
    · simp_all [Pattern.fits, Pattern.fitAll, NodeTest.accepts, SyntaxTree.kind]
    · rw [if_neg fitting]
      simp_all [Pattern.fits, NodeTest.accepts, SyntaxTree.kind]
  · cases leaf

/-- A bound name occurs in a pattern of the query, and if that pattern asks for nothing but a kind, the
node is of this kind. -/
theorem bound_by {query : Query} (bound : (name, node) ∈ query.bindings t) :
    ∃ pattern ∈ query, name ∈ pattern.captures ∧ ∀ kind capture,
      leaf? pattern = some (kind, capture) → (t.row node).named = true ∧ t.kind node = kind := by
  obtain ⟨pattern, member, root, -, bindings, fits, bound⟩ := (mem_bindings ..).mp bound
  refine ⟨pattern, member, fits_names t pattern root bindings fits _ bound, ?_⟩
  intro kind capture leaf
  rw [leaf_fits leaf] at fits
  split at fits
  · rename_i fitting
    obtain rfl := List.mem_singleton.mp fits
    cases List.mem_singleton.mp bound
    exact fitting
  · cases fits

/-- A pattern that asks for nothing but a kind binds every node of this kind. -/
theorem leaf_binds {query : Query} {pattern : Pattern} (member : pattern ∈ query)
    (leaf : leaf? pattern = some (kind, capture)) (inside : node < t.rows.size)
    (named : (t.row node).named = true) (fitting : t.kind node = kind) :
    (capture, node) ∈ query.bindings t := by
  refine (mem_bindings ..).mpr ⟨pattern, member, node, inside, [(capture, node)], ?_, by simp⟩
  rw [leaf_fits leaf, if_pos ⟨named, fitting⟩]
  exact List.mem_singleton.mpr rfl

/-- The kinds of nodes that declare something in Rust, and the one that states a visibility, each with
the role of its nodes. -/
def rustRoles : List (String × Role) := [
  ("function_item", .definition .function),
  ("function_signature_item", .definition .method),
  ("struct_item", .definition .struct),
  ("enum_item", .definition .enum),
  ("union_item", .definition .union),
  ("trait_item", .definition .trait),
  ("impl_item", .definition .impl),
  ("type_item", .definition .typeAlias),
  ("const_item", .definition .constant),
  ("static_item", .definition .static),
  ("mod_item", .definition .nameSpace),
  ("field_declaration", .definition .field),
  ("visibility_modifier", .qualifier .visibility)]

/-- Roles that the kind of a node alone decides in Rust. -/
def isToldByKind : Role → Bool
  | .definition _ | .qualifier .visibility => true
  | _ => false

private theorem rust_patterns : ∀ pattern ∈ Query.rust, ∀ name ∈ pattern.captures,
    isToldByKind (Role.ofName name) = true →
      ∃ leaf ∈ leaf? pattern, (leaf.1, Role.ofName name) ∈ rustRoles := by
  decide +kernel

/-- A node of a Rust file that declares something, or states a visibility, has the kind for it. -/
theorem rust_captured (member : capture ∈ Query.rust.run t) (told : isToldByKind capture.role = true) :
    (t.row capture.node).named = true ∧ (t.kind capture.node, capture.role) ∈ rustRoles := by
  obtain ⟨-, name, role, bound⟩ := (mem_run ..).mp member
  obtain ⟨pattern, written, captured, kinds⟩ := bound_by bound
  rw [← role] at told
  obtain ⟨⟨kind, own⟩, leaf, listed⟩ := rust_patterns pattern written name captured told
  obtain ⟨named, rfl⟩ := kinds kind own leaf
  exact ⟨named, role ▸ listed⟩

/-- Exactly the visibility modifiers of a Rust file are captured as such. -/
theorem rust_visibility (t : SyntaxTree) (node : Nat) (inside : node < t.rows.size) :
    ⟨.qualifier .visibility, node⟩ ∈ Query.rust.run t ↔
      (t.row node).named = true ∧ t.kind node = "visibility_modifier" := by
  constructor
  · intro member
    obtain ⟨named, listed⟩ := rust_captured member rfl
    refine ⟨named, ?_⟩
    simpa [rustRoles] using listed
  · rintro ⟨named, fitting⟩
    have written : ∃ pattern ∈ Query.rust,
        leaf? pattern = some ("visibility_modifier", "qualifier.visibility") := by decide +kernel
    obtain ⟨pattern, member, leaf⟩ := written
    have bound := leaf_binds member leaf inside named fitting
    have role : Role.ofName "qualifier.visibility" = .qualifier .visibility := by decide +kernel
    exact (mem_run ..).mpr ⟨by simp, _, role, bound⟩

/-- An implementation block of a Rust file declares nothing else. -/
theorem rust_impl (member : capture ∈ Query.rust.run t) (role : capture.role = .definition kind)
    (block : t.kind capture.node = "impl_item") : kind = .impl := by
  have listed := (rust_captured member (by rw [role]; rfl)).2
  rw [block, role] at listed
  simpa [rustRoles] using listed

end SourceAtlas.QueryCaptures
