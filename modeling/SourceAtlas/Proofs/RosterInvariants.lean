import Mathlib.Data.List.Induction
import Mathlib.Logic.Basic
import SourceAtlas.Conventions
import SourceAtlas.Extraction.Definition

/-! What no family may change. Refining a kind only ever turns a declaration into a class, a callable
or a value, and the attributes of a family leave alone what says which declaration a symbol stands
for. -/
namespace SourceAtlas.ConventionFrames

/-- Two symbols stand for the same declaration; they may differ in the attributes found in its
text. -/
structure SameDeclaration (a b : Symbol) : Prop where
  id : a.id = b.id
  kind : a.kind = b.kind
  name : a.name = b.name
  filePath : a.filePath = b.filePath
  startLine : a.startLine = b.startLine
  endLine : a.endLine = b.endLine

theorem SameDeclaration.refl (a : Symbol) : SameDeclaration a a :=
  ⟨rfl, rfl, rfl, rfl, rfl, rfl⟩

theorem SameDeclaration.trans (first : SameDeclaration a b) (second : SameDeclaration b c) :
    SameDeclaration a c :=
  ⟨first.id.trans second.id, first.kind.trans second.kind, first.name.trans second.name,
    first.filePath.trans second.filePath, first.startLine.trans second.startLine,
    first.endLine.trans second.endLine⟩

/-- Attributes that only one family has never touch the identity of a symbol. -/
theorem decorate_same (family : Family) (t : SyntaxTree) (node : Nat) (symbol : Symbol) :
    SameDeclaration (family.conventions.decorate t node symbol) symbol := by
  cases family with
  | ruby =>
    simp only [Family.conventions, Conventions.ruby]
    split
    · exact ⟨rfl, rfl, rfl, rfl, rfl, rfl⟩
    · exact .refl symbol
  | _ => exact ⟨rfl, rfl, rfl, rfl, rfl, rfl⟩

/-- The kinds that refining may give a declaration instead of its own. -/
def refinedKinds : List SymbolKind :=
  [.classType, .function, .arrowFunction, .method, .constructor, .field, .binding, .constant]

section
variable (t : SyntaxTree) (kind : SymbolKind) (node : Nat) (name : String) (isMember : Bool)

private theorem javascript_refine_stays :
    Conventions.Javascript.refine t kind node name isMember = kind ∨
      Conventions.Javascript.refine t kind node name isMember ∈ refinedKinds := by
  unfold Conventions.Javascript.refine
  split
  · split
    · simp [refinedKinds]
    · split <;> simp [refinedKinds]
  · split <;> simp [refinedKinds]
  · split <;> simp [refinedKinds]
  · exact .inl rfl

private theorem python_refine_stays :
    Conventions.Python.refine t kind node name isMember = kind ∨
      Conventions.Python.refine t kind node name isMember ∈ refinedKinds := by
  unfold Conventions.Python.refine
  split
  · split <;> simp [refinedKinds]
  · split <;> simp [refinedKinds]
  · exact .inl rfl

private theorem java_refine_stays :
    Conventions.Java.refine t kind node name isMember = kind ∨
      Conventions.Java.refine t kind node name isMember ∈ refinedKinds := by
  unfold Conventions.Java.refine
  split
  · dsimp only
    split <;> simp [refinedKinds]
  · exact .inl rfl

private theorem cfamily_refine_stays :
    Conventions.CFamily.refine t kind node name isMember = kind ∨
      Conventions.CFamily.refine t kind node name isMember ∈ refinedKinds := by
  unfold Conventions.CFamily.refine
  split
  · split <;> simp [refinedKinds]
  · split <;> simp [refinedKinds]
  · exact .inl rfl

/-- Refining a kind leaves it as it is or gives one of a few others. -/
theorem refine_stays (family : Family) :
    family.conventions.refine t kind node name isMember = kind ∨
      family.conventions.refine t kind node name isMember ∈ refinedKinds := by
  cases family with
  | javascript => exact javascript_refine_stays t kind node name isMember
  | python => exact python_refine_stays t kind node name isMember
  | java => exact java_refine_stays t kind node name isMember
  | cfamily => exact cfamily_refine_stays t kind node name isMember
  | _ => exact .inl rfl

end
end SourceAtlas.ConventionFrames

/-! What the roster of definitions keeps true while captures are judged one after another. `Judged`
says once what judging a capture can do; every invariant is a case analysis of it, and holds of the
finished roster by induction over the captures. -/
namespace SourceAtlas.RosterInvariants
open ConventionFrames

/-- The captured node adds nothing: it is kept already, is no definition by convention, is local to
a function, or stands inside a template that already stands for it. -/
def Dismissed (r : Reading) (roster : Roster) (kind : SymbolKind) (node : Nat) : Prop :=
  r.passesOver roster kind node = true ∨ r.isWrapped roster node (r.nameOf kind node) = true

instance (r : Reading) (roster : Roster) (kind : SymbolKind) (node : Nat) :
    Decidable (Dismissed r roster kind node) :=
  inferInstanceAs (Decidable (_ ∨ _))

/-- Everything that judging one captured definition can do to a roster. -/
inductive Judged (r : Reading) (roster : Roster) (kind : SymbolKind) (node : Nat) :
    Roster → Prop where
  | dismissed (dismissed : Dismissed r roster kind node) : Judged r roster kind node roster
  | repeated (judged : ¬ Dismissed r roster kind node)
      (taken : roster.hasId (r.candidate roster kind node).symbol.id = true) :
      Judged r roster kind node { roster with
        repeats := roster.repeats ++ [⟨node, (r.candidate roster kind node).symbol.id,
          if r.conventions.merges (r.candidate roster kind node).symbol.kind then
            (r.candidate roster kind node).memberPath else none⟩] }
  | kept (judged : ¬ Dismissed r roster kind node)
      (fresh : roster.hasId (r.candidate roster kind node).symbol.id = false) :
      Judged r roster kind node
        { roster with kept := roster.kept ++ [r.candidate roster kind node] }

theorem define_judged (r : Reading) (roster : Roster) (kind : SymbolKind) (node : Nat) :
    Judged r roster kind node (r.define roster kind node) := by
  unfold Reading.define
  split
  · rename_i passed
    exact .dismissed (Bool.or_eq_true_iff.mp passed)
  · rename_i judged
    have judged : ¬ Dismissed r roster kind node := fun dismissed =>
      judged (Bool.or_eq_true_iff.mpr dismissed)
    dsimp only
    split
    · rename_i taken
      exact .repeated judged taken
    · rename_i fresh
      exact .kept judged (Bool.eq_false_iff.mpr fresh)

private theorem roster_concat (r : Reading) (seen : List Capture) (capture : Capture) :
    r.roster (seen ++ [capture]) =
      match capture.role with
      | .definition kind => r.define (r.roster seen) kind capture.node
      | _ => r.roster seen := by
  unfold Reading.roster
  rw [List.foldl_append]
  rfl

/-- One more captured definition is judged against the roster of those before it. -/
theorem roster_judged (r : Reading) (seen : List Capture) {capture : Capture}
    (role : capture.role = .definition kind) :
    Judged r (r.roster seen) kind capture.node (r.roster (seen ++ [capture])) := by
  rw [roster_concat, role]
  exact define_judged r _ kind _

/-- Captures that declare nothing leave the roster alone. -/
theorem roster_passed (r : Reading) (seen : List Capture) {capture : Capture}
    (other : ∀ kind, capture.role ≠ .definition kind) :
    r.roster (seen ++ [capture]) = r.roster seen := by
  rw [roster_concat]
  cases role : capture.role with
  | definition kind => exact absurd role (other kind)
  | _ => rfl

/-- A property of the captures judged so far and of their roster holds of the finished roster when
it holds at the start and survives every judgement. -/
theorem roster_induction {motive : List Capture → Roster → Prop} (r : Reading)
    (start : motive [] {})
    (pass : ∀ seen roster capture, (∀ kind, capture.role ≠ .definition kind) →
      motive seen roster → motive (seen ++ [capture]) roster)
    (judge : ∀ seen roster capture kind after, capture.role = .definition kind →
      Judged r roster kind capture.node after → motive seen roster →
        motive (seen ++ [capture]) after)
    (captures : List Capture) : motive captures (r.roster captures) := by
  induction captures using List.reverseRecOn with
  | nil => exact start
  | append_singleton seen capture ih =>
    by_cases defines : ∃ kind, capture.role = .definition kind
    · obtain ⟨kind, role⟩ := defines
      exact judge seen _ capture kind _ role (roster_judged r seen role) ih
    · have other : ∀ kind, capture.role ≠ .definition kind := fun kind role => defines ⟨kind, role⟩
      rw [roster_passed r seen other]
      exact pass seen _ capture other ih

/-- What is kept stays, whatever is captured later. -/
theorem kept_grows (r : Reading) (before after : List Capture) :
    (r.roster before).kept <+: (r.roster (before ++ after)).kept := by
  induction after using List.reverseRecOn with
  | nil => simp
  | append_singleton after capture ih =>
    rw [← List.append_assoc]
    by_cases defines : ∃ kind, capture.role = .definition kind
    · obtain ⟨kind, role⟩ := defines
      have judged := roster_judged r (before ++ after) role
      generalize r.roster (before ++ after ++ [capture]) = later at judged ⊢
      cases judged with
      | dismissed => exact ih
      | repeated => exact ih
      | kept => exact ih.trans (List.prefix_append _ _)
    · rw [roster_passed r _ fun kind role => defines ⟨kind, role⟩]
      exact ih

/-- What holds of a definition from the moment it is kept: where it stands, and what its symbol says
about that place. -/
structure Grounded (r : Reading) (d : Definition) : Prop where
  notLocal : r.isLocal d.node = false
  declared : d.symbol.kind ≠ .file
  id : ∃ own, d.symbol.id = r.file.path ++ "#" ++ own
  filePath : d.symbol.filePath = r.file.path
  startLine : d.symbol.startLine = r.tree.startLine d.node
  lines : d.symbol.startLine ≤ d.symbol.endLine

private theorem adjustKind_stays (kind : SymbolKind) (isMember : Bool) :
    Reading.adjustKind kind isMember = kind ∨ Reading.adjustKind kind isMember ∈ refinedKinds := by
  unfold Reading.adjustKind
  split <;> simp [refinedKinds]

/-- The kind of a candidate is the captured one, or one that a declaration may be refined to. -/
theorem candidate_kind (r : Reading) (roster : Roster) (kind : SymbolKind) (node : Nat) :
    (r.candidate roster kind node).symbol.kind = kind ∨
      (r.candidate roster kind node).symbol.kind ∈ refinedKinds := by
  rcases refine_stays r.tree _ node _ _ r.language.family with same | refined
  · rcases adjustKind_stays kind _ with unadjusted | adjusted
    · exact .inl (same.trans unadjusted)
    · rw [← same] at adjusted
      exact .inr adjusted
  · exact .inr refined

/-- A kind that nothing is refined to is the kind of a candidate only where it was captured. -/
theorem candidate_avoids {avoided : SymbolKind} (captured : kind ≠ avoided)
    (unrefined : avoided ∉ refinedKinds) (r : Reading) (roster : Roster) (node : Nat) :
    (r.candidate roster kind node).symbol.kind ≠ avoided := by
  intro same
  rcases candidate_kind r roster kind node with own | refined
  · exact captured (own.symm.trans same)
  · exact unrefined (same ▸ refined)

theorem candidate_grounded {r : Reading} {roster : Roster} (declared : kind ≠ .file)
    (judged : ¬ Dismissed r roster kind node) : Grounded r (r.candidate roster kind node) where
  notLocal := by
    have considered : r.passesOver roster kind node = false :=
      Bool.eq_false_iff.mpr fun passed => judged (.inl passed)
    exact (Bool.or_eq_false_iff.mp considered).2
  declared := candidate_avoids declared (by decide) r roster node
  id := ⟨_, rfl⟩
  filePath := rfl
  startLine := rfl
  lines := Nat.le_max_left _ _

/-- The kept definitions are grounded, no two of them share an id or a node, and they stand in the
order in which their nodes were captured. -/
structure Sound (r : Reading) (captures : List Capture) (roster : Roster) : Prop where
  grounded : ∀ d ∈ roster.kept, Grounded r d
  ids : (roster.kept.map (·.symbol.id)).Nodup
  nodes : (roster.kept.map (·.node)).Nodup
  captured : (roster.kept.map (·.node)).Sublist (captures.map (·.node))

theorem keeps_iff (roster : Roster) (node : Nat) :
    roster.keeps node = true ↔ ∃ d ∈ roster.kept, d.node = node := by
  simp [Roster.keeps, Roster.find?, List.find?_isSome]

private theorem nodup_map_snoc {f : α → β} {l : List α} (nodup : (l.map f).Nodup)
    (fresh : ∀ b ∈ l, f b ≠ f a) : ((l ++ [a]).map f).Nodup := by
  rw [List.map_append, List.nodup_append]
  refine ⟨nodup, List.pairwise_singleton _ _, ?_⟩
  intro b memberB c memberC
  obtain ⟨held, member, rfl⟩ := List.mem_map.mp memberB
  obtain rfl := List.mem_singleton.mp memberC
  exact fresh held member

private theorem sound_pass (sound : Sound r seen roster) (capture : Capture) :
    Sound r (seen ++ [capture]) roster where
  grounded := sound.grounded
  ids := sound.ids
  nodes := sound.nodes
  captured := by
    rw [List.map_append]
    exact sound.captured.trans (List.sublist_append_left _ _)

theorem sound_judged (declared : kind ≠ .file) (judged : Judged r roster kind capture.node after)
    (sound : Sound r seen roster) : Sound r (seen ++ [capture]) after := by
  have passed := sound_pass sound capture
  cases judged with
  | dismissed _ => exact passed
  | repeated _ _ => exact ⟨passed.grounded, passed.ids, passed.nodes, passed.captured⟩
  | kept judged fresh =>
    have unkept : roster.keeps capture.node ≠ true := fun kept =>
      judged (.inl (by simp [Reading.passesOver, kept]))
    refine ⟨?_, ?_, ?_, ?_⟩
    · intro d member
      rcases List.mem_append.mp member with held | added
      · exact sound.grounded d held
      · obtain rfl := List.mem_singleton.mp added
        exact candidate_grounded declared judged
    · refine nodup_map_snoc sound.ids fun d member same => ?_
      have taken : roster.hasId (r.candidate roster kind capture.node).symbol.id = true :=
        List.any_eq_true.mpr ⟨d, member, beq_iff_eq.mpr same⟩
      rw [fresh] at taken
      cases taken
    · refine nodup_map_snoc sound.nodes fun d member same => ?_
      exact unkept ((keeps_iff roster capture.node).mpr ⟨d, member, same⟩)
    · rw [List.map_append, List.map_append]
      exact sound.captured.append (List.Sublist.refl [capture.node])

/-- Every roster of captures that declare no file is sound. -/
theorem roster_sound (r : Reading) (captures : List Capture)
    (declared : ∀ capture ∈ captures, capture.role ≠ .definition .file) :
    Sound r captures (r.roster captures) := by
  revert declared
  refine roster_induction (motive := fun seen roster =>
    (∀ capture ∈ seen, capture.role ≠ .definition .file) → Sound r seen roster) r ?_ ?_ ?_ captures
  · intro _
    exact ⟨by simp, List.nodup_nil, List.nodup_nil, List.Sublist.refl []⟩
  · intro seen roster capture _ ih declared
    exact sound_pass (ih fun c member => declared c (List.mem_append_left _ member)) capture
  · intro seen roster capture kind after role judged ih declared
    have kindDeclared : kind ≠ .file := by
      rintro rfl
      exact declared capture (by simp) role
    exact sound_judged kindDeclared judged
      (ih fun c member => declared c (List.mem_append_left _ member))

end SourceAtlas.RosterInvariants
