import Mathlib.Data.List.Nodup
import SourceAtlas.Proofs.ContainerMembers
import SourceAtlas.Proofs.ExtractionShape
import SourceAtlas.Proofs.QualifierOwners

/-! One pass over the captures settles how definitions nest. Where ranges nest, whatever is captured
around a node is captured before it. So what the roster says about the rows around a node when the
node is judged is what it says about them in the end, and no template is kept together with what it
already stands for. -/
namespace SourceAtlas.SettledNesting
open RosterInvariants MemberPaths ContainerMembers CaptureOrder ExtractionShape

/-- Captures of other nodes leave alone what is kept for a node. -/
theorem find_behind (r : Reading) (before after : List Capture)
    (elsewhere : ∀ capture ∈ after, ∀ kind, capture.role = .definition kind → capture.node ≠ node) :
    (r.roster (before ++ after)).find? node = (r.roster before).find? node := by
  induction after using List.reverseRecOn with
  | nil => rw [List.append_nil]
  | append_singleton after capture ih =>
    have earlier := ih fun other member => elsewhere other (List.mem_append_left _ member)
    rw [← List.append_assoc, ← earlier]
    by_cases defines : ∃ kind, capture.role = .definition kind
    · obtain ⟨kind, role⟩ := defines
      have other : capture.node ≠ node := elsewhere capture (by simp) kind role
      have judged := roster_judged r (before ++ after) role
      generalize r.roster (before ++ after ++ [capture]) = later at judged ⊢
      cases judged with
      | dismissed => rfl
      | repeated => rfl
      | kept => simp [Roster.find?, List.find?_append, Reading.candidate, other]
    · rw [roster_passed r _ fun kind role => defines ⟨kind, role⟩]

/-- The definition kept for its own node is found there. -/
theorem find_kept (sound : Sound r captures roster) (kept : d ∈ roster.kept) :
    roster.find? d.node = some d := by
  cases found : roster.find? d.node with
  | none => exact absurd rfl (find_absent found d kept)
  | some other =>
    obtain ⟨held, same⟩ := find_spec found
    rw [List.inj_on_of_nodup_map sound.nodes held kept same]

private theorem findSome_congr {f g : α → Option β} {l : List α} (same : ∀ a ∈ l, f a = g a) :
    l.findSome? f = l.findSome? g := by
  induction l with
  | nil => rfl
  | cons a rest ih =>
    rw [List.findSome?_cons, List.findSome?_cons, same a List.mem_cons_self,
      ih fun b member => same b (List.mem_cons_of_mem _ member)]

section
variable {r : Reading} {before after : List Capture} {capture : Capture} {kind : SymbolKind}
  (layered : Layered r.tree r.captures) (split : r.captures = before ++ capture :: after)
  (role : capture.role = .definition kind)
include layered split role

/-- The rows around a captured node are not captured once the node is. -/
theorem around_settled (around : host ∈ r.tree.ancestors capture.node) :
    ∀ other ∈ capture :: after, ∀ kind', other.role = .definition kind' → other.node ≠ host :=
  outer_captured_before layered (run_wider_first r.language.query r.tree) split role around

/-- What qualifies a definition when it is judged qualifies it in the end. -/
theorem enclosing_settled : r.enclosingPath? (r.roster before) capture.node =
    r.enclosingPath? (r.roster r.captures) capture.node := by
  unfold Reading.enclosingPath?
  refine findSome_congr fun host around => ?_
  rw [split, memberPath_behind r before _ (around_settled layered split role around)]

/-- What already stands for a definition when it is judged does so in the end, and nothing else. -/
theorem wrapped_settled (name : String) : r.isWrapped (r.roster before) capture.node name =
    r.isWrapped (r.roster r.captures) capture.node name := by
  unfold Reading.isWrapped
  cases above : r.tree.parent? capture.node with
  | none => rfl
  | some outer =>
    have around : outer ∈ r.tree.ancestors capture.node := List.mem_of_mem_head? above
    rw [split, Option.bind_some, Option.bind_some,
      find_behind r before _ (around_settled layered split role around)]

end

/-- A kept definition is not wrapped in a kept template of its name. -/
theorem kept_unwrapped {r : Reading} (layered : Layered r.tree r.captures)
    (kept : d ∈ (r.roster r.captures).kept) :
    r.isWrapped (r.roster r.captures) d.node d.symbol.name = false := by
  obtain ⟨earlier, later, parts⟩ := List.append_of_mem kept
  obtain ⟨before, kind, declares, -, made⟩ := kept_declared parts
  obtain ⟨capture, after, split, role, here⟩ := declares.captured
  have name : d.symbol.name = r.nameOf kind d.node := by rw [made]; rfl
  rw [name, ← here, ← wrapped_settled layered split role, here]
  exact Bool.eq_false_iff.mpr fun wrapped => declares.judged (.inr wrapped)

/-- Where ranges nest and no captured definition has the range of another one inside it: what
qualifies a definition, and whether a template already stands for it, is the same on the roster it is
judged against and on the finished one. So no kept definition stands directly in a kept template of
its name. -/
theorem one_pass_settles_nesting {r : Reading} (layered : Layered r.tree r.captures) :
    (∀ before capture after kind, r.captures = before ++ capture :: after →
      capture.role = .definition kind →
        r.enclosingPath? (r.roster before) capture.node =
          r.enclosingPath? (r.roster r.captures) capture.node ∧
        r.isWrapped (r.roster before) capture.node (r.nameOf kind capture.node) =
          r.isWrapped (r.roster r.captures) capture.node (r.nameOf kind capture.node)) ∧
    (∀ d ∈ (r.roster r.captures).kept, ∀ template ∈ (r.roster r.captures).kept,
      r.tree.parent? d.node = some template.node → template.symbol.kind = .template →
        d.symbol.name ≠ template.symbol.name) := by
  constructor
  · intro before capture after kind split role
    exact ⟨enclosing_settled layered split role, wrapped_settled layered split role _⟩
  · intro d kept template keptTemplate above isTemplate same
    have unwrapped := kept_unwrapped layered kept
    have found : (r.roster r.captures).find? template.node = some template :=
      find_kept (extract_sound r) keptTemplate
    simp [Reading.isWrapped, above, found, isTemplate, same] at unwrapped

/-- A template of a struct with a field. -/
def templatedStruct : Reading where
  language := .cpp
  file := {
    path := "trait.cpp"
    content := "template <class T> struct Trait \x7b static const bool value = false; \x7d;\n"
    rows := #[
      ⟨0, "translation_unit", true, "", 0, 70, []⟩, ⟨1, "template_declaration", true, "", 0, 69, []⟩,
      ⟨2, "template", false, "", 0, 8, []⟩,
      ⟨2, "template_parameter_list", true, "parameters", 9, 18, []⟩, ⟨3, "<", false, "", 9, 10, []⟩,
      ⟨3, "type_parameter_declaration", true, "", 10, 17, []⟩, ⟨4, "class", false, "", 10, 15, []⟩,
      ⟨4, "type_identifier", true, "", 16, 17, []⟩, ⟨3, ">", false, "", 17, 18, []⟩,
      ⟨2, "struct_specifier", true, "", 19, 68, []⟩, ⟨3, "struct", false, "", 19, 25, []⟩,
      ⟨3, "type_identifier", true, "name", 26, 31, []⟩,
      ⟨3, "field_declaration_list", true, "body", 32, 68, []⟩, ⟨4, "\x7b", false, "", 32, 33, []⟩,
      ⟨4, "field_declaration", true, "", 34, 66, []⟩,
      ⟨5, "storage_class_specifier", true, "", 34, 40, []⟩, ⟨6, "static", false, "", 34, 40, []⟩,
      ⟨5, "type_qualifier", true, "", 41, 46, []⟩, ⟨6, "const", false, "", 41, 46, []⟩,
      ⟨5, "primitive_type", true, "type", 47, 51, []⟩,
      ⟨5, "field_identifier", true, "declarator", 52, 57, []⟩, ⟨5, "=", false, "", 58, 59, []⟩,
      ⟨5, "false", true, "default_value", 60, 65, []⟩, ⟨5, ";", false, "", 65, 66, []⟩,
      ⟨4, "\x7d", false, "", 67, 68, []⟩, ⟨2, ";", false, "", 68, 69, []⟩] }

private theorem templatedStruct_captures : templatedStruct.captures =
    [⟨.definition .template, 1⟩, ⟨.definition .struct, 9⟩, ⟨.definition .field, 14⟩,
      ⟨.qualifier .modifiers, 15⟩] := by
  have same : [(1, 1), (4, 9), (9, 14), (13, 15)].Perm
      (found templatedStruct.language.query templatedStruct.tree) := by
    decide +kernel
  refine (run_of_sorted same ?_).trans ?_ <;> decide +kernel

private theorem templatedStruct_layered : Layered templatedStruct.tree templatedStruct.captures := by
  rw [templatedStruct_captures]
  exact layered_of_apart (by decide +kernel) (by decide +kernel)

/-- The template stands for the struct as soon as the struct is judged, and the field is qualified by
the template; both are so in the end. -/
theorem template_settles_struct :
    Layered templatedStruct.tree templatedStruct.captures ∧
    templatedStruct.isWrapped (templatedStruct.roster templatedStruct.captures) 9 "Trait" = true ∧
    templatedStruct.enclosingPath? (templatedStruct.roster templatedStruct.captures) 14 =
      some "Trait" := by
  obtain ⟨settled, -⟩ := one_pass_settles_nesting templatedStruct_layered
  obtain ⟨-, wrapped⟩ := settled [⟨.definition .template, 1⟩] ⟨.definition .struct, 9⟩ _ .struct
    templatedStruct_captures rfl
  obtain ⟨enclosed, -⟩ := settled [⟨.definition .template, 1⟩, ⟨.definition .struct, 9⟩]
    ⟨.definition .field, 14⟩ _ .field templatedStruct_captures rfl
  have name : templatedStruct.nameOf .struct 9 = "Trait" := by decide +kernel
  refine ⟨templatedStruct_layered, ?_, ?_⟩
  · rw [← name, ← wrapped]
    decide +kernel
  · rw [← enclosed]
    decide +kernel

end SourceAtlas.SettledNesting
