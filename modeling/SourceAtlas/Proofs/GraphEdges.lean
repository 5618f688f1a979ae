import Mathlib.Algebra.GroupWithZero.Nat
import Mathlib.Data.List.Induction
import Mathlib.Data.List.Perm.Basic
import SourceAtlas.Graph
import SourceAtlas.Proofs.MergedSymbols

/-! What building a graph keeps of a list of edges. The edges are looked at in turn, and one is kept
when its ends are two different symbols and it has not occurred before. Everything else follows from
this one step: where the kept edges come from, that building again changes nothing, that the order of
the list decides nothing but the order of the edges, and that every edge is counted once at its
source and once at its target. -/
namespace SourceAtlas.GraphEdges
open SortedLists MergedSymbols SourceAtlas.Graph

/-- The ends of an edge are two different symbols of a table. -/
def Joins (table : SymbolTable) (edge : Edge) : Prop :=
  edge.fromId ≠ edge.toId ∧ edge.fromId ∈ table.ids ∧ edge.toId ∈ table.ids

instance (table : SymbolTable) : DecidablePred (Joins table) :=
  fun _ => inferInstanceAs (Decidable (_ ∧ _))

/-- The edges of a list, in order, that pass a test in view of the edges before them. -/
def picked (test : Edge → List Edge → Bool) (edges : List Edge) : List Edge :=
  (edges.zipIdx.filter fun (edge, place) => test edge (edges.take place)).map (·.1)

/-- The accepted edges, each where it occurs first. -/
def firsts (accepts : Edge → Prop) [DecidablePred accepts] : List Edge → List Edge :=
  picked fun edge before => accepts edge ∧ edge ∉ before

/-- The accepted edges, each where it occurs again. -/
def repeats (accepts : Edge → Prop) [DecidablePred accepts] : List Edge → List Edge :=
  picked fun edge before => accepts edge ∧ edge ∈ before

/-- Some groups of edges, one for each id, divide a list among them: nothing is lost, nothing is in
two groups, and so the sizes add up. -/
structure Divides (ids : List String) (group : String → List Edge) (edges : List Edge) : Prop where
  together : (ids.flatMap group).Perm edges
  apart : ids.Pairwise fun a b => (group a).Disjoint (group b)
  total : (ids.map fun id => (group id).length).sum = edges.length

theorem joins_iff (table : SymbolTable) (edge : Edge) :
    joins table edge = true ↔ Joins table edge := by
  simp only [joins, Joins, Bool.and_eq_true, bne_iff_ne, contains_iff_mem_ids, and_assoc]

/-- Whether the last edge is picked depends on it and all edges before; it changes nothing for
those. -/
theorem picked_concat (test : Edge → List Edge → Bool) (edges : List Edge) (edge : Edge) :
    picked test (edges ++ [edge]) =
      if test edge edges then picked test edges ++ [edge] else picked test edges := by
  have earlier : (edges.zipIdx.filter fun (other, place) =>
        test other ((edges ++ [edge]).take place)) =
      edges.zipIdx.filter fun (other, place) => test other (edges.take place) := by
    refine List.filter_congr ?_
    rintro ⟨other, place⟩ member
    have inside : place ≤ edges.length := by
      have := (List.mem_zipIdx member).2.1
      omega
    simp only [List.take_append_of_le_length inside]
  rw [picked, List.zipIdx_append, List.filter_append, earlier, List.map_append]
  by_cases passes : test edge edges = true
  · simp [picked, passes]
  · simp [picked, passes]

section
variable (accepts : Edge → Prop) [DecidablePred accepts]

theorem firsts_congr (accepts' : Edge → Prop) [DecidablePred accepts'] {edges : List Edge}
    (same : ∀ edge ∈ edges, accepts edge ↔ accepts' edge) :
    firsts accepts edges = firsts accepts' edges := by
  refine congrArg (List.map _) (List.filter_congr ?_)
  rintro ⟨edge, place⟩ member
  have listed : edge ∈ edges := List.mem_of_getElem? (List.mem_zipIdx_iff_getElem?.mp member)
  simp only [same edge listed]

theorem firsts_concat (edges : List Edge) (edge : Edge) :
    firsts accepts (edges ++ [edge]) =
      if accepts edge ∧ edge ∉ edges then firsts accepts edges ++ [edge]
      else firsts accepts edges := by
  rw [firsts, picked_concat]
  simp only [decide_eq_true_eq]

theorem repeats_concat (edges : List Edge) (edge : Edge) :
    repeats accepts (edges ++ [edge]) =
      if accepts edge ∧ edge ∈ edges then repeats accepts edges ++ [edge]
      else repeats accepts edges := by
  rw [repeats, picked_concat]
  simp only [decide_eq_true_eq]

/-- Every edge of a list is a first occurrence, or a repetition, or not accepted. -/
theorem firsts_counted (edges : List Edge) :
    edges.length = (firsts accepts edges).length + (repeats accepts edges).length +
      edges.countP fun edge => ¬ accepts edge := by
  induction edges using List.reverseRecOn with
  | nil => rfl
  | append_singleton edges edge ih =>
    rw [firsts_concat, repeats_concat, List.countP_append, List.countP_singleton,
      List.length_append, List.length_singleton]
    by_cases accepted : accepts edge
    · have counted : ¬ decide (¬ accepts edge) = true := by simpa using accepted
      by_cases again : edge ∈ edges
      · rw [if_neg fun new => new.2 again, if_pos ⟨accepted, again⟩, if_neg counted,
          List.length_append, List.length_singleton]
        omega
      · rw [if_pos ⟨accepted, again⟩, if_neg fun old => again old.2, if_neg counted,
          List.length_append, List.length_singleton]
        omega
    · rw [if_neg fun new => accepted new.1, if_neg fun old => accepted old.1,
        if_pos (decide_eq_true accepted)]
      omega

end

/-- The step of building a graph: one more edge is kept exactly when it joins two symbols and has not
occurred before. -/
theorem build_concat (table : SymbolTable) (edges : List Edge) (edge : Edge) :
    (build table (edges ++ [edge])).edges =
      if Joins table edge ∧ edge ∉ edges then (build table edges).edges ++ [edge]
      else (build table edges).edges := by
  rw [build, List.filter_append]
  by_cases joined : Joins table edge
  · have passes : joins table edge = true := (joins_iff table edge).mpr joined
    rw [List.filter_singleton, passes, cond_true, distinct_concat]
    by_cases again : edge ∈ edges
    · simp [build, again, passes]
    · simp [build, again, joined]
  · have fails : joins table edge = false :=
      Bool.eq_false_iff.mpr fun passes => joined ((joins_iff table edge).mp passes)
    simp [build, fails, joined]

/-- A graph keeps the first occurrences of the edges that join two symbols. -/
theorem build_firsts (table : SymbolTable) (edges : List Edge) :
    (build table edges).edges = firsts (Joins table) edges := by
  -- looking at the edges in turn is an induction from the end of the list
  induction edges using List.reverseRecOn with
  | nil => rfl
  | append_singleton edges edge ih => rw [build_concat, firsts_concat, ih]

theorem mem_build (table : SymbolTable) (edges : List Edge) (edge : Edge) :
    edge ∈ (build table edges).edges ↔ edge ∈ edges ∧ Joins table edge := by
  rw [build, mem_distinct, List.mem_filter, joins_iff]

theorem build_nodup (table : SymbolTable) (edges : List Edge) :
    (build table edges).edges.Nodup :=
  distinct_nodup _

/-- Building a graph from the symbols and edges of a graph gives that graph. -/
theorem build_again (table : SymbolTable) (edges : List Edge) :
    build table (build table edges).edges = build table edges := by
  have allJoin : ∀ edge ∈ (build table edges).edges, joins table edge = true := by
    intro edge member
    exact (joins_iff table edge).mpr ((mem_build table edges edge).mp member).2
  rw [build, List.filter_eq_self.mpr allJoin, distinct_of_nodup (build_nodup table edges)]
  rfl

/-- Lists of the same edges, in any order and with any repetitions, build the same set of edges. -/
theorem build_same_edges (table : SymbolTable) {edges edges' : List Edge}
    (same : ∀ edge, edge ∈ edges ↔ edge ∈ edges') :
    (build table edges).edges.Perm (build table edges').edges := by
  refine (List.perm_ext_iff_of_nodup (build_nodup table edges) (build_nodup table edges')).mpr ?_
  intro edge
  rw [mem_build, mem_build, same]

/-- The groups of edges by one of their ends, one after another, hold the edges whose end is one of
the ids. -/
private theorem groups_perm (edgeEnd : Edge → String) (edges : List Edge) {ids : List String}
    (distinct : ids.Nodup) :
    (ids.flatMap fun id => edges.filter (edgeEnd · == id)).Perm
      (edges.filter fun edge => edgeEnd edge ∈ ids) := by
  induction ids with
  | nil => simp
  | cons id rest ih =>
    obtain ⟨absent, restDistinct⟩ := List.nodup_cons.mp distinct
    have here : (edges.filter fun edge => edgeEnd edge ∈ id :: rest).filter (edgeEnd · == id) =
        edges.filter (edgeEnd · == id) := by
      rw [List.filter_filter]
      refine List.filter_congr fun edge _ => ?_
      by_cases same : edgeEnd edge = id <;> simp [same]
    have later : ((edges.filter fun edge => edgeEnd edge ∈ id :: rest).filter
        fun edge => !(edgeEnd edge == id)) = edges.filter fun edge => edgeEnd edge ∈ rest := by
      rw [List.filter_filter]
      refine List.filter_congr fun edge _ => ?_
      by_cases same : edgeEnd edge = id
      · simp [same, absent]
      · simp [same]
    have divided := List.filter_append_perm (edgeEnd · == id)
      (edges.filter fun edge => edgeEnd edge ∈ id :: rest)
    rw [here, later] at divided
    rw [List.flatMap_cons]
    exact ((ih restDistinct).append_left _).trans divided

/-- Edges are divided by one of their ends, when every such end is among the ids. -/
theorem divides_by_end (edgeEnd : Edge → String) {edges : List Edge} {ids : List String}
    (distinct : ids.Nodup) (covered : ∀ edge ∈ edges, edgeEnd edge ∈ ids) :
    Divides ids (fun id => edges.filter (edgeEnd · == id)) edges := by
  have together := groups_perm edgeEnd edges distinct
  rw [List.filter_eq_self.mpr fun edge member => decide_eq_true (covered edge member)] at together
  refine ⟨together, distinct.imp ?_, ?_⟩
  · intro a b different edge inA inB
    have endA : edgeEnd edge = a := by simpa using (List.mem_filter.mp inA).2
    have endB : edgeEnd edge = b := by simpa using (List.mem_filter.mp inB).2
    exact different (endA.symm.trans endB)
  · rw [← together.length_eq, List.length_flatMap]

/-- A graph built over symbols with distinct ids keeps, in order, the first occurrence of each edge
whose ends are two different symbols, and nothing else. Building again from its own symbols and edges
changes nothing, the set of edges does not depend on how the given ones were ordered or repeated, and
the edges are divided among the ids by their sources as well as by their targets. -/
theorem build_keeps_firsts {table : SymbolTable} (ordered : Ordered table) (edges : List Edge) :
    (build table edges).table = table ∧
    (build table edges).edges = firsts (Joins table) edges ∧
    ((∀ edge ∈ (build table edges).edges, edge.fromId ≠ edge.toId ∧
      edge.fromId ∈ table.ids ∧ edge.toId ∈ table.ids) ∧ (build table edges).edges.Nodup) ∧
    build (build table edges).table (build table edges).edges = build table edges ∧
    (∀ edges', (∀ edge, edge ∈ edges ↔ edge ∈ edges') →
      (build table edges).edges.Perm (build table edges').edges) ∧
    Divides table.ids (build table edges).outgoing (build table edges).edges ∧
    Divides table.ids (build table edges).incoming (build table edges).edges := by
  have joined : ∀ edge ∈ (build table edges).edges, Joins table edge := by
    intro edge member
    exact ((mem_build table edges edge).mp member).2
  refine ⟨rfl, build_firsts table edges, ⟨joined, build_nodup table edges⟩, build_again table edges,
    fun _ => build_same_edges table, ?_, ?_⟩
  · exact divides_by_end (·.fromId) (ids_nodup ordered) fun edge member => (joined edge member).2.1
  · exact divides_by_end (·.toId) (ids_nodup ordered) fun edge member => (joined edge member).2.2

/-- The symbols `a` and `b`. -/
def twoSymbols : SymbolTable :=
  .ofFirsts <| ["b", "a"].map fun id =>
    { id, kind := .function, name := id, filePath := "a.js", startLine := 1, endLine := 1 }

/-- A repetition, a loop and an edge to nowhere among two edges of different kinds. -/
def fiveEdges : List Edge :=
  [⟨"a", "b", .calls⟩, ⟨"a", "b", .calls⟩, ⟨"a", "a", .calls⟩, ⟨"a", "missing", .calls⟩,
    ⟨"a", "b", .imports⟩]

theorem five_edges_build_two :
    Ordered twoSymbols ∧
    (build twoSymbols fiveEdges).edges = [⟨"a", "b", .calls⟩, ⟨"a", "b", .imports⟩] ∧
    Divides twoSymbols.ids (build twoSymbols fiveEdges).outgoing
      (build twoSymbols fiveEdges).edges := by
  have ordered : Ordered twoSymbols := ofFirsts_ordered _
  obtain ⟨-, kept, -, -, -, outgoing, -⟩ := build_keeps_firsts ordered fiveEdges
  refine ⟨ordered, ?_, outgoing⟩
  rw [kept]
  decide +kernel

end SourceAtlas.GraphEdges
