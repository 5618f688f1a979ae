import Mathlib.Data.List.Forall2
import SourceAtlas.Extraction.Basic
import SourceAtlas.Proofs.CaptureOrder
import SourceAtlas.Proofs.RosterInvariants
import SourceAtlas.Proofs.SyntaxNesting
import SourceAtlas.Proofs.WordRuns

/-! The shape of everything a file contributes. Whatever its text, its language and its syntax tree
are, the file comes first and its declarations follow in the order of their lines, each with an id of
its own; and every relation starts at one of these symbols, the one most closely around it. -/
namespace SourceAtlas.ExtractionShape
open ConventionFrames RosterInvariants SyntaxNesting

/-- The kept definition that stands most closely around a node. -/
structure Innermost (r : Reading) (roster : Roster) (node : Nat) (d : Definition) : Prop where
  kept : d ∈ roster.kept
  around : Encloses r.tree d.node node
  closest : ∀ other ∈ roster.kept, Encloses r.tree other.node node →
    Encloses r.tree other.node d.node

/-- A relation mentioned at a node starts at the innermost kept definition around the node, and at
the file when no kept definition is around it. -/
def StartsAt (r : Reading) (roster : Roster) (node : Nat) (id : String) : Prop :=
  (∃ d, Innermost r roster node d ∧ id = d.symbol.id) ∨
    ((∀ d ∈ roster.kept, ¬ Encloses r.tree d.node node) ∧ id = r.file.path)

/-- What a mention in the text may become: a relation to a trimmed name, from a symbol of the
extraction. Where it starts is decided by kept definitions alone: a declaration that was discarded as
a repeat never comes between. -/
structure Mentioned (r : Reading) (roster : Roster) (symbols : List Symbol) (node : Nat)
    (relation : Relation) : Prop where
  named : relation.toName ≠ ""
  trimmed : Text.trim relation.toName = relation.toName
  known : ∃ symbol ∈ symbols, symbol.id = relation.fromId
  starts : StartsAt r roster node relation.fromId

/-- An extraction in order. The symbols behind the first are those of the kept definitions, one by
one, so each has the syntax node of its definition. -/
structure WellFormed (r : Reading) (captures : List Capture) (e : Extraction) : Prop where
  path : e.path = r.file.path
  file : ∃ file declared, e.symbols = file :: declared ∧ file.kind = .file ∧
    file.id = r.file.path ∧
      ∀ symbol ∈ declared, symbol.kind ≠ .file ∧ ∃ own, symbol.id = r.file.path ++ "#" ++ own
  ids : (e.symbols.map (·.id)).Nodup
  places : ∀ symbol ∈ e.symbols,
    symbol.filePath = r.file.path ∧ 1 ≤ symbol.startLine ∧ symbol.startLine ≤ symbol.endLine
  lines : e.symbols.tail.Pairwise fun a b => a.startLine ≤ b.startLine
  definitions : List.Forall₂ (fun symbol d => SameDeclaration symbol d.symbol) e.symbols.tail
    (r.roster captures).kept
  outside : ∀ d ∈ (r.roster captures).kept, ∀ outer ∈ r.tree.ancestors d.node,
    r.tree.kind outer ∉ r.conventions.scopes
  relations : e.relations = captures.flatMap (r.relationsOf (r.roster captures))
  mentions : ∀ capture ∈ captures, ∀ relation ∈ r.relationsOf (r.roster captures) capture,
    Mentioned r (r.roster captures) e.symbols capture.node relation

private theorem withFields_same (r : Reading) (node : Nat) (a : Attributes) (s : Symbol) :
    SameDeclaration (r.withFields node a s) s := by
  unfold Reading.withFields
  split
  · exact ⟨rfl, rfl, rfl, rfl, rfl, rfl⟩
  · exact .refl s

/-- Completing a definition adds attributes to its symbol and leaves its identity alone. -/
theorem complete_same (r : Reading) (marks : List Mark) (d : Definition) :
    SameDeclaration (r.complete marks d) d.symbol := by
  have qualified : SameDeclaration ((r.attributes marks d.node).applyTo d.symbol) d.symbol :=
    ⟨rfl, rfl, rfl, rfl, rfl, rfl⟩
  have withFields := (withFields_same r d.node (r.attributes marks d.node) _).trans qualified
  have decorated (s : Symbol) := decorate_same r.language.family r.tree d.node s
  exact ⟨(decorated _).id.trans withFields.id, (decorated _).kind.trans withFields.kind,
    (decorated _).name.trans withFields.name, (decorated _).filePath.trans withFields.filePath,
    (decorated _).startLine.trans withFields.startLine,
    (decorated _).endLine.trans withFields.endLine⟩

theorem find_spec (found : Roster.find? roster node = some d) : d ∈ roster.kept ∧ d.node = node :=
  ⟨List.mem_of_find?_eq_some found, by simpa using List.find?_some found⟩

theorem find_absent (absent : Roster.find? roster node = none) : ∀ d ∈ roster.kept, d.node ≠ node := by
  intro d member same
  have missed := List.find?_eq_none.mp absent d member
  simp [same] at missed

/-- Attribution finds the innermost kept definition, for every roster and every node. -/
theorem enclosingId_starts (r : Reading) (roster : Roster) (node : Nat) :
    StartsAt r roster node (r.enclosingId roster node) := by
  unfold Reading.enclosingId
  cases found : (node :: r.tree.ancestors node).findSome? roster.find? with
  | none =>
    refine .inr ⟨?_, rfl⟩
    intro d member around
    exact find_absent (List.findSome?_eq_none_iff.mp found d.node around) d member rfl
  | some d =>
    obtain ⟨inner, middle, outer, split, here, before⟩ := List.findSome?_eq_some_iff.mp found
    obtain ⟨member, rfl⟩ := find_spec here
    refine .inl ⟨d, ⟨member, ?_, ?_⟩, rfl⟩
    · rw [Encloses, split]
      simp
    · intro other kept around
      rw [Encloses, split] at around
      rcases List.mem_append.mp around with inside | further
      · -- the rows before the hit hold no kept definition
        exact absurd rfl (find_absent (before other.node inside) other kept)
      · rwa [Encloses, ← around_split split]

private theorem starts_known {symbols : List Symbol} {id : String}
    (starts : StartsAt r roster node id)
    (fileKnown : ∃ symbol ∈ symbols, symbol.id = r.file.path)
    (keptKnown : ∀ d ∈ roster.kept, ∃ symbol ∈ symbols, symbol.id = d.symbol.id) :
    ∃ symbol ∈ symbols, symbol.id = id := by
  rcases starts with ⟨d, innermost, rfl⟩ | ⟨-, rfl⟩
  · exact keptKnown d innermost.kept
  · exact fileKnown

theorem relationsOf_spec {r : Reading} {roster : Roster}
    (member : relation ∈ r.relationsOf roster capture) :
    relation.fromId = r.enclosingId roster capture.node ∧ relation.toName ≠ "" ∧
      Text.trim relation.toName = relation.toName := by
  unfold Reading.relationsOf at member
  split at member
  · obtain ⟨⟨kind, name⟩, -, made⟩ := List.mem_filterMap.mp member
    simp only [Reading.relation?] at made
    split at made
    · cases made
    · rename_i named
      cases made
      exact ⟨rfl, by simpa using named, TrimmedTexts.trim_trim name⟩
  · cases member

theorem path_not_behind_hash (path own : String) : path ≠ path ++ "#" ++ own := by
  intro same
  have lengths := congrArg String.length same
  have hash : "#".length = 1 := rfl
  rw [String.length_append, String.length_append, hash] at lengths
  omega

section
variable {r : Reading} {captures : List Capture}

/-- The symbols of kept definitions behind the symbol of the file. -/
private theorem declared_symbol (member : symbol ∈ (r.extractFrom captures).symbols.tail) :
    ∃ d ∈ (r.roster captures).kept, SameDeclaration symbol d.symbol := by
  obtain ⟨d, kept, rfl⟩ := List.mem_map.mp member
  exact ⟨d, kept, complete_same r _ d⟩

private theorem declared_grounded (sound : Sound r captures (r.roster captures))
    (member : symbol ∈ (r.extractFrom captures).symbols.tail) :
    symbol.kind ≠ .file ∧ (∃ own, symbol.id = r.file.path ++ "#" ++ own) ∧
      symbol.filePath = r.file.path ∧ 1 ≤ symbol.startLine ∧
        symbol.startLine ≤ symbol.endLine := by
  obtain ⟨d, kept, same⟩ := declared_symbol member
  have grounded := sound.grounded d kept
  obtain ⟨own, id⟩ := grounded.id
  refine ⟨same.kind ▸ grounded.declared, ⟨own, same.id.trans id⟩,
    same.filePath.trans grounded.filePath, ?_, ?_⟩
  · rw [same.startLine, grounded.startLine]
    exact lineAt_pos r.tree _
  · rw [same.startLine, same.endLine]
    exact grounded.lines

/-- No id occurs twice in an extraction. -/
theorem ids_distinct (sound : Sound r captures (r.roster captures)) :
    ((r.extractFrom captures).symbols.map (·.id)).Nodup := by
  refine List.nodup_cons.mpr ⟨?_, ?_⟩
  · intro member
    obtain ⟨symbol, declared, same⟩ := List.mem_map.mp member
    obtain ⟨-, ⟨own, id⟩, -⟩ := declared_grounded sound declared
    exact path_not_behind_hash r.file.path own (same.symm.trans id)
  · have ids : ((r.extractFrom captures).symbols.tail.map (·.id)) =
        (r.roster captures).kept.map (·.symbol.id) := by
      refine (List.map_map ..).trans (List.map_congr_left fun d _ => ?_)
      exact (complete_same r _ d).id
    exact ids ▸ sound.ids

private theorem lines_ordered (sound : Sound r captures (r.roster captures))
    (ordered : captures.Pairwise fun a b => (r.tree.row a.node).start ≤ (r.tree.row b.node).start) :
    (r.extractFrom captures).symbols.tail.Pairwise fun a b => a.startLine ≤ b.startLine := by
  have nodes : ((r.roster captures).kept.map (·.node)).Pairwise
      fun a b => (r.tree.row a).start ≤ (r.tree.row b).start := by
    refine List.Pairwise.sublist sound.captured (List.pairwise_map.mpr ?_)
    exact ordered
  refine List.pairwise_map.mpr ((List.pairwise_map.mp nodes).imp_of_mem ?_)
  intro a b keptA keptB le
  rw [(complete_same r _ a).startLine, (complete_same r _ b).startLine,
    (sound.grounded a keptA).startLine, (sound.grounded b keptB).startLine]
  exact lineAt_mono r.tree le

/-- Every relation starts at a symbol of the extraction. -/
theorem mention_known (member : relation ∈ r.relationsOf (r.roster captures) capture) :
    ∃ symbol ∈ (r.extractFrom captures).symbols, symbol.id = relation.fromId := by
  rw [(relationsOf_spec member).1]
  refine starts_known (enclosingId_starts r _ capture.node)
    ⟨_, List.mem_cons_self, rfl⟩ fun d kept => ?_
  exact ⟨_, List.mem_cons_of_mem _ (List.mem_map_of_mem kept), (complete_same r _ d).id⟩

/-- Captures that come in order and make a sound roster give a well-formed extraction. -/
theorem extractFrom_well_formed (sound : Sound r captures (r.roster captures))
    (ordered : captures.Pairwise fun a b => (r.tree.row a.node).start ≤ (r.tree.row b.node).start) :
    WellFormed r captures (r.extractFrom captures) := by
  refine {
    path := rfl
    file := ⟨_, _, rfl, rfl, rfl, fun symbol member => ?_⟩
    ids := ids_distinct sound
    places := ?_
    lines := lines_ordered sound ordered
    definitions := ?_
    outside := ?_
    relations := rfl
    mentions := ?_ }
  · have grounded := declared_grounded sound member
    exact ⟨grounded.1, grounded.2.1⟩
  · intro symbol member
    rcases List.mem_cons.mp member with rfl | later
    · exact ⟨rfl, Nat.le_refl 1, Nat.le_max_left _ _⟩
    · exact (declared_grounded sound later).2.2
  · refine List.forall₂_map_left_iff.mpr (List.forall₂_same.mpr fun d _ => ?_)
    exact complete_same r _ d
  · intro d kept outer around scope
    have outside := List.any_eq_false.mp (sound.grounded d kept).notLocal outer around
    exact outside (List.contains_iff_mem.mpr scope)
  · intro capture _ relation member
    obtain ⟨start, named, trimmed⟩ := relationsOf_spec member
    exact ⟨named, trimmed, mention_known member, start ▸ enclosingId_starts r _ capture.node⟩

end

/-- The captures of a language's query make a sound roster. -/
theorem extract_sound (r : Reading) :
    Sound r (r.language.query.run r.tree) (r.roster (r.language.query.run r.tree)) :=
  roster_sound r _ fun _ member => CaptureOrder.run_declares_no_file member

/-- Every id of an extraction begins with the path of its file: it is the path, or a hash sign
follows. -/
theorem extract_id {r : Reading} (member : symbol ∈ r.extract.symbols) :
    symbol.id = r.file.path ∨ ∃ own, symbol.id = r.file.path ++ "#" ++ own := by
  rcases List.mem_cons.mp member with rfl | later
  · exact .inl rfl
  · exact .inr (declared_grounded (extract_sound r) later).2.1

/-- Every extraction is well formed, for every file, every registered language and every table of
syntax rows. -/
theorem extract_well_formed (r : Reading) :
    WellFormed r (r.language.query.run r.tree) r.extract :=
  extractFrom_well_formed (extract_sound r)
    (CaptureOrder.run_starts_in_order r.language.query r.tree)

end SourceAtlas.ExtractionShape
