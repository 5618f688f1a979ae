import Mathlib.Data.Set.Function
import SourceAtlas.Proofs.RankMass

/-! Ranks by links see nothing of a graph but its links. A renaming of the ids that keeps the links
renumbers the positions, and renumbering commutes with everything an iteration does: with what each
symbol hands on, with what is spread evenly and with the largest change of a rank. So two such graphs
go through the same iterations, stop after the same number of them and end with the same ranks. -/
namespace SourceAtlas.RankRenaming
open SourceAtlas.PageRank ExactScalars RankMass MergedSymbols

/-- The pairs of ids that are joined by an edge, of whatever kind and however often. -/
def joinedIds (g : Graph) : Set (String × String) :=
  {pair | ∃ edge ∈ g.edges, (edge.fromId, edge.toId) = pair}

/-- Gives each id of one graph an id of the other, each exactly once, so that the joined pairs become
the joined pairs. -/
structure KeepsLinks (rename : String → String) (g g' : Graph) : Prop where
  ids : Set.BijOn rename {id | id ∈ g.table.ids} {id | id ∈ g'.table.ids}
  links : Set.image (Prod.map rename rename) (joinedIds g) = joinedIds g'

/-- The largest change of a rank by the iteration behind the first `count`. -/
def changeAfter (g : Graph) (damping : ℚ) (count : Nat) : ℚ :=
  change (iterated g damping count) (iterated g damping (count + 1))

/-- The ranks are those after `count` iterations, the first of which is always made: each of them but
the last changed some rank noticeably, and the last did not, unless it was the last one allowed. -/
structure StopsAfter (g : Graph) (damping : ℚ) (limit count : Nat) : Prop where
  made : 0 < count ∧ count ≤ max limit 1
  going : ∀ earlier, earlier + 1 < count → tolerance ≤ changeAfter g damping earlier
  last : count = max limit 1 ∨ changeAfter g damping (count - 1) < tolerance
  reached : ranks g damping limit = iterated g damping count

/-- Links that are the same but for the numbers of the positions. -/
structure Renumbered (place : Nat → Nat) (links links' : Links) : Prop where
  size : links'.size = links.size
  onto : ((List.range links.size).map place).Perm (List.range links.size)
  inside : ∀ i < links.size, ∀ source ∈ links.sources i, source < links.size
  degree : ∀ i < links.size, links'.degree (place i) = links.degree i
  sources : ∀ i < links.size, (links'.sources (place i)).Perm ((links.sources i).map place)

/-- Ranks that are the same but for the numbers of the positions. -/
structure Carried (place : Nat → Nat) (size : Nat) (ranks ranks' : Array ℚ) : Prop where
  sized : ranks.size = size
  sized' : ranks'.size = size
  same : ∀ i < size, ranks'.getD (place i) 0 = ranks.getD i 0

section
variable {place : Nat → Nat} {size : Nat}
  (onto : ((List.range size).map place).Perm (List.range size))
include onto

theorem place_inside (inside : i < size) : place i < size :=
  List.mem_range.mp (onto.subset (List.mem_map_of_mem (List.mem_range.mpr inside)))

theorem place_injective (inside : i < size) (inside' : j < size) : place i = place j ↔ i = j := by
  have nodup : ((List.range size).map place).Nodup := onto.nodup_iff.mpr List.nodup_range
  exact ⟨List.inj_on_of_nodup_map nodup (List.mem_range.mpr inside) (List.mem_range.mpr inside'),
    congrArg place⟩

end

section
variable {place : Nat → Nat} {links links' : Links} {ranks ranks' after after' : Array ℚ}

/-- What is listed for all positions is listed, in another order, for all their new numbers. -/
theorem listed_perm (renumbered : Renumbered place links links') {value value' : Nat → ℚ}
    (same : ∀ i < links.size, value' (place i) = value i) :
    ((List.range links.size).map value').Perm ((List.range links.size).map value) := by
  have moved : ((List.range links.size).map place).map value' =
      (List.range links.size).map value := by
    rw [List.map_map]
    exact List.map_congr_left fun i member => same i (List.mem_range.mp member)
  rw [← moved]
  exact (renumbered.onto.map value').symm

theorem share_carried (renumbered : Renumbered place links links')
    (carried : Carried place links.size ranks ranks') (inside : i < links.size) :
    share links' ranks' (place i) = share links ranks i := by
  have same : ranks'.getD (place i) (Scalar.ofNat 0) = ranks.getD i (Scalar.ofNat 0) := by
    simpa [Scalar.ofNat] using carried.same i inside
  rw [share, share, same, renumbered.degree i inside]

/-- Positions without links hold as much together. -/
theorem dangling_carried (renumbered : Renumbered place links links')
    (carried : Carried place links.size ranks ranks') :
    dangling links' ranks' = dangling links ranks := by
  have kept : (List.range links.size).filter ((fun i => links'.degree i == 0) ∘ place) =
      (List.range links.size).filter fun i => links.degree i == 0 := by
    refine List.filter_congr fun i member => ?_
    simp [renumbered.degree i (List.mem_range.mp member)]
  have held : (((List.range links.size).map place).filter fun i => links'.degree i == 0).map
        (ranks'.getD · (Scalar.ofNat 0)) =
      ((List.range links.size).filter fun i => links.degree i == 0).map
        (ranks.getD · (Scalar.ofNat 0)) := by
    rw [List.filter_map, List.map_map, kept]
    refine List.map_congr_left fun i member => ?_
    simpa [Scalar.ofNat] using carried.same i (List.mem_range.mp (List.mem_filter.mp member).1)
  rw [dangling, dangling, sum_eq, sum_eq, renumbered.size, ← held]
  exact (((renumbered.onto.filter _).map _).sum_eq).symm

/-- Each position is handed as much under its new number. -/
theorem handed_carried (renumbered : Renumbered place links links')
    (carried : Carried place links.size ranks ranks') (inside : i < links.size) :
    ((links'.sources (place i)).map (share links' ranks')).sum =
      ((links.sources i).map (share links ranks)).sum := by
  rw [((renumbered.sources i inside).map _).sum_eq, List.map_map]
  refine congrArg List.sum (List.map_congr_left fun source member => ?_)
  exact share_carried renumbered carried (renumbered.inside i inside source member)

/-- The step: an iteration carries ranks that are carried. -/
theorem step_carried (renumbered : Renumbered place links links') (damping : ℚ)
    (carried : Carried place links.size ranks ranks') :
    Carried place links.size (step links damping ranks) (step links' damping ranks') := by
  refine ⟨step_size .., (step_size ..).trans renumbered.size, fun i inside => ?_⟩
  have placed : place i < links'.size := by
    rw [renumbered.size]
    exact place_inside renumbered.onto inside
  rw [step_at links' damping ranks' placed, step_at links damping ranks inside, renumbered.size,
    dangling_carried renumbered carried, handed_carried renumbered carried inside]

/-- The largest change of a rank does not depend on the numbers of the positions. -/
theorem change_carried (renumbered : Renumbered place links links')
    (before : Carried place links.size ranks ranks')
    (behind : Carried place links.size after after') :
    change ranks' after' = change ranks after := by
  have distances : ∀ i < links.size,
      Scalar.distance (ranks'.getD (place i) (Scalar.ofNat 0))
          (after'.getD (place i) (Scalar.ofNat 0)) =
        Scalar.distance (ranks.getD i (Scalar.ofNat 0)) (after.getD i (Scalar.ofNat 0)) := by
    intro i inside
    have first := before.same i inside
    have second := behind.same i inside
    simp only [Scalar.ofNat, Nat.cast_zero, first, second]
  have commutes : RightCommutative (Scalar.larger : ℚ → ℚ → ℚ) := by
    refine ⟨fun x y z => ?_⟩
    rw [larger_eq, larger_eq, larger_eq, larger_eq, max_right_comm]
  rw [change, change, before.sized, before.sized']
  exact (listed_perm renumbered distances).foldl_eq _

end

/-- Links that are described by the same pairs, but for the numbers of the positions. -/
theorem described_renumbered {links links' : Links} {joined joined' : List (Nat × Nat)}
    (described : Described links joined) (described' : Described links' joined')
    (size : links'.size = links.size)
    (onto : ((List.range links.size).map place).Perm (List.range links.size))
    (pairs : joined'.Perm (joined.map (Prod.map place place))) :
    Renumbered place links links' := by
  have placed {i : Nat} (inside : i < links.size) : place i < links'.size := by
    rw [size]
    exact place_inside onto inside
  refine ⟨size, onto, fun i inside source member => ?_, fun i inside => ?_, fun i inside => ?_⟩
  · rw [described.sources i inside, List.mem_reverse] at member
    obtain ⟨pair, listed, rfl⟩ := List.mem_map.mp member
    exact (described.inside pair (List.mem_filter.mp listed).1).1
  · rw [described'.degree _ (placed inside), described.degree i inside, pairs.countP_eq,
      List.countP_map]
    refine List.countP_congr fun pair listed => ?_
    simp [place_injective onto (described.inside pair listed).1 inside]
  · have kept : joined.filter ((fun pair => pair.2 == place i) ∘ Prod.map place place) =
        joined.filter (·.2 == i) := by
      refine List.filter_congr fun pair listed => ?_
      have same := place_injective onto (described.inside pair listed).2 inside
      simp only [Function.comp_apply, Prod.map_snd, Bool.beq_eq_decide_eq, same]
    have moved : ((joined.map (Prod.map place place)).filter (·.2 == place i)).map (·.1) =
        ((joined.filter (·.2 == i)).map (·.1)).map place := by
      rw [List.filter_map, kept, List.map_map, List.map_map]
      rfl
    rw [described'.sources _ (placed inside), described.sources i inside, List.map_reverse, ← moved]
    exact (List.reverse_perm _).trans
      (((pairs.filter _).map _).trans (List.reverse_perm _).symm)

/-- Where the symbol at a position of one graph stands in the other. -/
def placeOf (rename : String → String) (g g' : Graph) (i : Nat) : Nat :=
  g'.table.ids.idxOf (rename (g.table.ids.getD i ""))

section
variable {rename : String → String} {table table' : SymbolTable} {edges edges' : List Edge}

theorem placeOf_idxOf {g g' : Graph} {id : String} (known : id ∈ g.table.ids) :
    placeOf rename g g' (g.table.ids.idxOf id) = g'.table.ids.idxOf (rename id) := by
  have inside := List.idxOf_lt_length_iff.mpr known
  rw [placeOf, List.getD_eq_getElem?_getD, List.getElem?_eq_getElem inside, Option.getD_some,
    List.getElem_idxOf]

/-- The renamed ids are the ids of the other graph in some order. -/
theorem renamed_perm {g g' : Graph} (keeps : KeepsLinks rename g g') (nodup : g.table.ids.Nodup)
    (nodup' : g'.table.ids.Nodup) : (g.table.ids.map rename).Perm g'.table.ids := by
  refine (List.perm_ext_iff_of_nodup (nodup.map_on ?_) nodup').mpr fun id => ?_
  · intro a knownA b knownB same
    exact keeps.ids.injOn knownA knownB same
  · rw [List.mem_map]
    constructor
    · rintro ⟨old, known, rfl⟩
      exact keeps.ids.mapsTo known
    · intro known
      obtain ⟨old, held, rfl⟩ := keeps.ids.surjOn known
      exact ⟨old, held, rfl⟩

theorem positions_of_nodup {ids : List String} (nodup : ids.Nodup) :
    ids.map ids.idxOf = List.range ids.length := by
  refine List.ext_getElem (by simp) fun i held _ => ?_
  rw [List.getElem_map, List.getElem_range, nodup.idxOf_getElem]

theorem places_perm {g g' : Graph} (keeps : KeepsLinks rename g g') (nodup : g.table.ids.Nodup)
    (nodup' : g'.table.ids.Nodup) :
    ((List.range g.table.ids.length).map (placeOf rename g g')).Perm
      (List.range g.table.ids.length) := by
  have renamed := renamed_perm keeps nodup nodup'
  have moved : (List.range g.table.ids.length).map (placeOf rename g g') =
      (g.table.ids.map rename).map g'.table.ids.idxOf := by
    rw [← positions_of_nodup nodup, List.map_map, List.map_map]
    exact List.map_congr_left fun id known => placeOf_idxOf known
  have size : g'.table.ids.length = g.table.ids.length := by
    rw [← renamed.length_eq, List.length_map]
  rw [moved, ← size, ← positions_of_nodup nodup']
  exact renamed.map _

theorem pairs_nodup (g : Graph) : (pairs g).Nodup :=
  SortedLists.distinct_nodup _

/-- The pairs of positions joined by an edge are those of the joined ids. -/
theorem mem_pairs (g : Graph) (pair : Nat × Nat) :
    pair ∈ pairs g ↔ ∃ ids ∈ joinedIds g, Prod.map g.table.ids.idxOf g.table.ids.idxOf ids = pair := by
  rw [pairs, SortedLists.mem_distinct, List.mem_map]
  constructor
  · rintro ⟨edge, member, rfl⟩
    exact ⟨_, ⟨edge, member, rfl⟩, rfl⟩
  · rintro ⟨ids, ⟨edge, member, rfl⟩, rfl⟩
    exact ⟨edge, member, rfl⟩

/-- The ends of joined ids are symbols of the graph. -/
theorem joinedIds_known (member : ids ∈ joinedIds (.build table edges)) :
    ids.1 ∈ table.ids ∧ ids.2 ∈ table.ids := by
  obtain ⟨edge, kept, rfl⟩ := member
  exact ((GraphEdges.mem_build table edges edge).mp kept).2.2

theorem pairs_renumbered (keeps : KeepsLinks rename (.build table edges) (.build table' edges'))
    (nodup : table.ids.Nodup) (nodup' : table'.ids.Nodup) :
    (pairs (.build table' edges')).Perm ((pairs (.build table edges)).map
      (Prod.map (placeOf rename (.build table edges) (.build table' edges'))
        (placeOf rename (.build table edges) (.build table' edges')))) := by
  generalize placed : placeOf rename (.build table edges) (.build table' edges') = place
  have move (ids : String × String) (member : ids ∈ joinedIds (.build table edges)) :
      Prod.map place place (Prod.map table.ids.idxOf table.ids.idxOf ids) =
        Prod.map table'.ids.idxOf table'.ids.idxOf (Prod.map rename rename ids) := by
    obtain ⟨source, target⟩ := joinedIds_known member
    rw [← placed]
    exact Prod.ext (placeOf_idxOf source) (placeOf_idxOf target)
  have onto : ((List.range table.ids.length).map place).Perm (List.range table.ids.length) := by
    rw [← placed]
    exact places_perm keeps nodup nodup'
  refine (List.perm_ext_iff_of_nodup (pairs_nodup _) ((pairs_nodup _).map_on ?_)).mpr fun pair => ?_
  · intro a listedA b listedB same
    have size : (Links.ofGraph (.build table edges)).size = table.ids.length := by
      simp [Links.ofGraph, Graph.build, SymbolTable.ids]
    have inside := (ofGraph_described table edges).inside
    rw [size] at inside
    obtain ⟨first, second⟩ := Prod.ext_iff.mp same
    exact Prod.ext ((place_injective onto (inside a listedA).1 (inside b listedB).1).mp first)
      ((place_injective onto (inside a listedA).2 (inside b listedB).2).mp second)
  · rw [mem_pairs, List.mem_map]
    constructor
    · rintro ⟨ids', member, rfl⟩
      rw [← keeps.links] at member
      obtain ⟨ids, member, rfl⟩ := member
      exact ⟨_, (mem_pairs ..).mpr ⟨ids, member, rfl⟩, move ids member⟩
    · rintro ⟨old, listed, rfl⟩
      obtain ⟨ids, member, rfl⟩ := (mem_pairs ..).mp listed
      have moved : Prod.map rename rename ids ∈ joinedIds (.build table' edges') := by
        rw [← keeps.links]
        exact ⟨ids, member, rfl⟩
      exact ⟨_, moved, (move ids member).symm⟩

theorem ofGraph_renumbered (keeps : KeepsLinks rename (.build table edges) (.build table' edges'))
    (nodup : table.ids.Nodup) (nodup' : table'.ids.Nodup) :
    Renumbered (placeOf rename (.build table edges) (.build table' edges'))
      (Links.ofGraph (.build table edges)) (Links.ofGraph (.build table' edges')) := by
  have size : table'.symbols.length = table.symbols.length := by
    have lengths := (renamed_perm keeps nodup nodup').length_eq
    simpa [Graph.build, SymbolTable.ids] using lengths.symm
  have onto := places_perm keeps nodup nodup'
  rw [show (Graph.build table edges).table.ids.length = table.symbols.length from
    List.length_map _] at onto
  exact described_renumbered (ofGraph_described table edges) (ofGraph_described table' edges') size
    onto (pairs_renumbered keeps nodup nodup')

end

/-- The run: so do any number of iterations, which start from ranks that are all alike. -/
theorem iterated_carried {g g' : Graph}
    (renumbered : Renumbered place (Links.ofGraph g) (Links.ofGraph g')) (damping : ℚ)
    (count : Nat) : Carried place (Links.ofGraph g).size (iterated g damping count)
      (iterated g' damping count) := by
  have size : g'.table.symbols.length = g.table.symbols.length := renumbered.size
  induction count with
  | zero =>
    refine ⟨Array.size_replicate, Array.size_replicate.trans size, fun i inside => ?_⟩
    have placed : place i < g.table.symbols.length := place_inside renumbered.onto inside
    have held : i < g.table.symbols.length := inside
    simp [iterated, size, placed, held]
  | succ count ih =>
    simp only [iterated, Function.iterate_succ_apply'] at ih ⊢
    exact step_carried renumbered _ ih

/-- Iterating goes on as long as the ranks change noticeably and iterations are left. -/
theorem iterate_stops (links : Links) (damping : ℚ) (limit : Nat) (start : Array ℚ) :
    ∃ count, count ≤ limit + 1 ∧ 0 < count ∧
      (∀ earlier, earlier + 1 < count → tolerance ≤ change ((step links damping)^[earlier] start)
        ((step links damping)^[earlier + 1] start)) ∧
      (count = limit + 1 ∨ change ((step links damping)^[count - 1] start)
        ((step links damping)^[count] start) < tolerance) ∧
      iterate links damping (limit + 1) start = (step links damping)^[count] start := by
  induction limit generalizing start with
  | zero => exact ⟨1, le_rfl, one_pos, by omega, .inl rfl, by simp [iterate]⟩
  | succ limit ih =>
    rw [iterate]
    by_cases settled : change start (step links damping start) < tolerance
    · refine ⟨1, by omega, one_pos, by omega, .inr settled, ?_⟩
      exact if_pos (decide_eq_true settled)
    · obtain ⟨count, bound, made, going, last, reached⟩ := ih (step links damping start)
      refine ⟨count + 1, by omega, Nat.succ_pos _, fun earlier below => ?_, ?_, ?_⟩
      · cases earlier with
        | zero => exact not_lt.mp settled
        | succ earlier => exact going earlier (by omega)
      · refine last.imp (by omega) fun still => ?_
        rw [show count + 1 - 1 = count - 1 + 1 by omega]
        exact still
      · exact (if_neg (by simpa [Scalar.isBelow] using settled)).trans reached

theorem stops_after (g : Graph) (damping : ℚ) (limit : Nat) :
    ∃ count, StopsAfter g damping limit count := by
  obtain ⟨count, bound, made, going, last, reached⟩ := iterate_stops (Links.ofGraph g)
    (limited damping) (max limit 1 - 1)
    (Array.replicate g.table.symbols.length (1 / (g.table.symbols.length : ℚ)))
  have allowed : max limit 1 - 1 + 1 = max limit 1 := by omega
  rw [allowed] at bound last reached
  refine ⟨count, ⟨made, bound⟩, going, last.imp id fun settled => ?_, ?_⟩
  · rw [changeAfter, show count - 1 + 1 = count by omega]
    exact settled
  · rw [ranks, clampUnit_eq]
    exact reached

/-- Iterations that change the ranks alike do not stop earlier in one graph than in the other. -/
theorem stops_no_earlier {g g' : Graph} (alike : changeAfter g damping = changeAfter g' damping)
    (stops : StopsAfter g damping limit count) (stops' : StopsAfter g' damping limit count') :
    count' ≤ count := by
  by_contra longer
  have made := stops.made
  have made' := stops'.made
  rcases stops.last with all | settled
  · omega
  · have still := stops'.going (count - 1) (by omega)
    rw [← alike] at still
    exact absurd settled (not_lt.mpr still)

theorem lookup_zip {ids : List String} {values : List ℚ} (id : String)
    (matched : ids.length = values.length) :
    (ids.zip values).lookup id = values[ids.idxOf id]? := by
  induction ids generalizing values with
  | nil =>
    obtain rfl := List.length_eq_zero_iff.mp matched.symm
    rfl
  | cons first rest ih =>
    cases values with
    | nil => simp at matched
    | cons value values =>
      by_cases here : id = first
      · simp [here]
      · have beyond : (id == first) = false := beq_eq_false_iff_ne.mpr here
        rw [List.zip_cons_cons, List.lookup_cons, beyond, ih (Nat.succ.inj matched),
          List.idxOf_cons_ne _ (Ne.symm here), List.getElem?_cons_succ]

/-- The score of a symbol is the rank at its position. -/
theorem score_at {g : Graph} {id : String} (known : id ∈ g.table.ids)
    (sized : (ranks g damping limit).size = g.table.symbols.length) :
    (scores g damping limit).lookup id =
      some ((ranks g damping limit).getD (g.table.ids.idxOf id) (0 : ℚ)) := by
  have matched : g.table.ids.length = (ranks g damping limit).toList.length :=
    (List.length_map _).trans sized.symm
  have inside := List.idxOf_lt_length_iff.mpr known
  rw [matched] at inside
  have held : g.table.ids.idxOf id < (ranks g damping limit).size := inside
  rw [scores, lookup_zip id matched, List.getElem?_eq_getElem inside]
  simp [held]

/-- Two graphs whose ids correspond so that the joined pairs correspond, in exact fractions, for every
damping and every limit on the iterations: they stop after the same number of iterations, and
corresponding ids have the same score. Kinds, repetitions and order of the edges and the ids
themselves have no part in it. -/
theorem renaming_keeps_ranks {rename : String → String} {table table' : SymbolTable}
    {edges edges' : List Edge} (ordered : Ordered table) (ordered' : Ordered table')
    (keeps : KeepsLinks rename (.build table edges) (.build table' edges')) (damping : ℚ)
    (limit : Nat) :
    (∃ count, StopsAfter (.build table edges) damping limit count ∧
      StopsAfter (.build table' edges') damping limit count) ∧
    ∀ id ∈ table.ids, ∃ score,
      (scores (.build table edges) damping limit).lookup id = some score ∧
        (scores (.build table' edges') damping limit).lookup (rename id) = some score := by
  have renumbered := ofGraph_renumbered keeps (ids_nodup ordered) (ids_nodup ordered')
  have carried := iterated_carried renumbered damping
  have alike : changeAfter (.build table edges) damping = changeAfter (.build table' edges') damping :=
    funext fun count => (change_carried renumbered (carried count) (carried (count + 1))).symm
  obtain ⟨count, stops⟩ := stops_after (.build table edges) damping limit
  obtain ⟨count', stops'⟩ := stops_after (.build table' edges') damping limit
  obtain rfl : count = count' :=
    le_antisymm (stops_no_earlier alike.symm stops' stops) (stops_no_earlier alike stops stops')
  refine ⟨⟨count, stops, stops'⟩, fun id known => ⟨_, score_at known ?_, ?_⟩⟩
  · rw [stops.reached]
    exact (carried count).sized
  · have known' : rename id ∈ table'.ids := keeps.ids.mapsTo known
    have sized' : (ranks (.build table' edges') damping limit).size = table'.symbols.length := by
      rw [stops'.reached]
      exact (carried count).sized'.trans renumbered.size.symm
    have place : placeOf rename (.build table edges) (.build table' edges') (table.ids.idxOf id) =
        table'.ids.idxOf (rename id) := placeOf_idxOf known
    have inside : table.ids.idxOf id < (Links.ofGraph (.build table edges)).size :=
      (List.idxOf_lt_length_of_mem known).trans_eq (List.length_map _)
    have same := (carried count).same _ inside
    rw [place] at same
    rw [score_at known' sized', stops.reached, stops'.reached]
    exact congrArg some same

/-- Two symbols change places. -/
def swapped (id : String) : String :=
  if id = "a" then "b" else "a"

open GraphEdges in
private theorem swapped_keeps_links : KeepsLinks swapped (.build twoSymbols fiveEdges)
    (.build twoSymbols [⟨"b", "a", .inherits⟩]) := by
  have edges : (Graph.build twoSymbols fiveEdges).edges =
      [⟨"a", "b", .calls⟩, ⟨"a", "b", .imports⟩] := by decide +kernel
  have edges' : (Graph.build twoSymbols [⟨"b", "a", .inherits⟩]).edges = [⟨"b", "a", .inherits⟩] := by
    decide +kernel
  have back : ∀ id ∈ twoSymbols.ids,
      swapped id ∈ twoSymbols.ids ∧ swapped (swapped id) = id := by decide +kernel
  have joined : joinedIds (.build twoSymbols fiveEdges) = {("a", "b")} := by
    ext pair
    simp [joinedIds, edges, eq_comm]
  have joined' : joinedIds (.build twoSymbols [⟨"b", "a", .inherits⟩]) = {("b", "a")} := by
    ext pair
    simp [joinedIds, edges', eq_comm]
  refine ⟨⟨fun id known => (back id known).1, fun a knownA b knownB same => ?_, fun id known => ?_⟩, ?_⟩
  · rw [← (back a knownA).2, same, (back b knownB).2]
  · exact ⟨swapped id, (back id known).1, (back id known).2⟩
  · rw [joined, joined', Set.image_singleton]
    rfl

open GraphEdges in
/-- A symbol that calls another one and imports it too ranks like one that does no more than inherit
from another one, although their ids come in the opposite order. -/
theorem swapped_symbols_keep_ranks :
    Ordered twoSymbols ∧ KeepsLinks swapped (.build twoSymbols fiveEdges)
        (.build twoSymbols [⟨"b", "a", .inherits⟩]) ∧
      ∃ score, (scores (.build twoSymbols fiveEdges) (17 / 20 : ℚ) 100).lookup "a" = some score ∧
        (scores (.build twoSymbols [⟨"b", "a", .inherits⟩]) (17 / 20 : ℚ) 100).lookup "b" =
          some score := by
  have ordered : Ordered twoSymbols := ofFirsts_ordered _
  have known : "a" ∈ twoSymbols.ids := by decide +kernel
  obtain ⟨-, same⟩ := renaming_keeps_ranks ordered ordered swapped_keeps_links (17 / 20) 100
  exact ⟨ordered, swapped_keeps_links, same "a" known⟩

end SourceAtlas.RankRenaming
