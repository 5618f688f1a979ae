import Mathlib.Algebra.BigOperators.Ring.Finset
import Mathlib.Algebra.Order.BigOperators.Ring.Finset
import Mathlib.Algebra.Order.Group.Abs
import Mathlib.Algebra.Order.Ring.Rat
import Mathlib.Tactic.FieldSimp
import Mathlib.Tactic.Linarith
import SourceAtlas.Proofs.GraphEdges
import SourceAtlas.Rank

/-! Ranks in exact fractions. Everything that is computed with doubles when the program runs is
computed here without rounding, so sums of ranks can be compared. -/
namespace SourceAtlas.ExactScalars

instance : Scalar ℚ where
  ofNat n := n
  isBelow x y := x < y

theorem sum_eq (xs : List ℚ) : Scalar.sum xs = xs.sum := by
  rw [List.sum_eq_foldl]
  rfl

/-- The nearest fraction between zero and one. -/
theorem clampUnit_eq (x : ℚ) : Scalar.clampUnit x = max 0 (min x 1) := by
  simp only [Scalar.clampUnit, Scalar.isBelow, Scalar.ofNat, decide_eq_true_eq, Nat.cast_zero,
    Nat.cast_one]
  split_ifs with below above
  · exact (max_eq_left (min_le_of_left_le below.le)).symm
  · rw [min_eq_right above.le, max_eq_right zero_le_one]
  · rw [min_eq_left (not_lt.mp above), max_eq_right (not_lt.mp below)]

theorem larger_eq (x y : ℚ) : Scalar.larger x y = max x y := by
  simp only [Scalar.larger, Scalar.isBelow, decide_eq_true_eq]
  split_ifs with below
  · exact (max_eq_right below.le).symm
  · exact (max_eq_left (not_lt.mp below)).symm

theorem distance_eq (x y : ℚ) : Scalar.distance x y = |x - y| := by
  simp only [Scalar.distance, Scalar.isBelow, decide_eq_true_eq]
  split_ifs with below
  · rw [abs_sub_comm, abs_of_pos (sub_pos.mpr below)]
  · rw [abs_of_nonneg (sub_nonneg.mpr (not_lt.mp below))]

/-- Taking the larger number again and again loses neither the first one nor any later one. -/
theorem le_foldl_larger (start : ℚ) (values : List ℚ) :
    ∀ value ∈ start :: values, value ≤ values.foldl Scalar.larger start := by
  induction values generalizing start with
  | nil => simp
  | cons first rest ih =>
    intro value member
    rw [List.foldl_cons, larger_eq]
    have kept := ih (max start first)
    rcases List.mem_cons.mp member with rfl | member
    · exact (le_max_left _ _).trans (kept _ List.mem_cons_self)
    · rcases List.mem_cons.mp member with rfl | later
      · exact (le_max_right _ _).trans (kept _ List.mem_cons_self)
      · exact kept value (List.mem_cons_of_mem _ later)

end SourceAtlas.ExactScalars

/-! Ranks by links neither gain nor lose anything. What is handed to all symbols together is
counted once for each link; counted by the sources of the links instead, it is all that the symbols
with links hold. What the others hold is spread evenly, so an iteration keeps the total. -/
namespace SourceAtlas.RankMass
open SourceAtlas.PageRank ExactScalars Finset

/-- Links between positions that are given by a list of pairs. -/
structure Described (links : Links) (joined : List (Nat × Nat)) : Prop where
  inside : ∀ pair ∈ joined, pair.1 < links.size ∧ pair.2 < links.size
  degree : ∀ i < links.size, links.degree i = joined.countP (·.1 == i)
  sources : ∀ i < links.size, links.sources i = ((joined.filter (·.2 == i)).map (·.1)).reverse

/-- Ranks that share out a whole: one for each position, none below `least`, and together one. -/
structure Shared (size : Nat) (least : ℚ) (ranks : Array ℚ) : Prop where
  sized : ranks.size = size
  bounded : ∀ rank ∈ ranks.toList, least ≤ rank
  total : ranks.toList.sum = 1

/-- The damping that is used: the nearest one between zero and one. -/
def limited (damping : ℚ) : ℚ :=
  max 0 (min damping 1)

/-- What a symbol gets whatever the links are. -/
def leastRank (size : Nat) (damping : ℚ) : ℚ :=
  (1 - limited damping) / size

/-- The ranks of a graph after a number of iterations, however little they change. -/
def iterated (g : Graph) (damping : ℚ) (count : Nat) : Array ℚ :=
  (step (Links.ofGraph g) (limited damping))^[count]
    (Array.replicate g.table.symbols.length (1 / g.table.symbols.length))

theorem ofGraph_described (table : SymbolTable) (edges : List Edge) :
    Described (Links.ofGraph (.build table edges)) (pairs (.build table edges)) := by
  refine ⟨?_, ?_, ?_⟩
  · intro pair member
    obtain ⟨edge, kept, rfl⟩ := List.mem_map.mp ((SortedLists.mem_distinct _ _).mp member)
    obtain ⟨-, source, target⟩ := ((GraphEdges.mem_build table edges edge).mp kept).2
    have size : (Links.ofGraph (.build table edges)).size = table.ids.length := by
      simp [Links.ofGraph, Graph.build, SymbolTable.ids]
    rw [size]
    exact ⟨List.idxOf_lt_length_of_mem source, List.idxOf_lt_length_of_mem target⟩
  · intro i inside
    have bound : i < (Graph.build table edges).table.symbols.length := inside
    simp [Links.ofGraph, bound]
  · intro i inside
    have bound : i < (Graph.build table edges).table.symbols.length := inside
    simp [Links.ofGraph, bound]

section
variable {links : Links} {joined : List (Nat × Nat)}

/-- Only a position with links hands anything on, so no share is a quotient by zero. -/
theorem source_has_links (described : Described links joined) (target : i < links.size)
    (source : j ∈ links.sources i) : 0 < links.degree j := by
  rw [described.sources i target, List.mem_reverse] at source
  obtain ⟨pair, member, rfl⟩ := List.mem_map.mp source
  have listed := (List.mem_filter.mp member).1
  rw [described.degree _ (described.inside pair listed).1, List.countP_pos_iff]
  exact ⟨pair, listed, by simp⟩

/-- What the pairs carry, collected by one of their positions. -/
theorem sum_by_position (position : Nat × Nat → Nat) (carried : Nat × Nat → ℚ)
    (inside : ∀ pair ∈ joined, position pair < size) :
    ∑ i ∈ range size, ((joined.filter (position · == i)).map carried).sum =
      (joined.map carried).sum := by
  induction joined with
  | nil => simp
  | cons pair rest ih =>
    obtain ⟨here, later⟩ := List.forall_mem_cons.mp inside
    have collect (i : Nat) : (((pair :: rest).filter (position · == i)).map carried).sum =
        (if position pair = i then carried pair else 0) +
          ((rest.filter (position · == i)).map carried).sum := by
      by_cases same : position pair = i <;> simp [same]
    simp only [collect, sum_add_distrib, ih later, sum_ite_eq, mem_range, here, if_true,
      List.map_cons, List.sum_cons]

/-- What all positions are handed, counted at the positions that hand it on. -/
theorem handed_total (described : Described links joined) (part : Nat → ℚ) :
    ∑ i ∈ range links.size, ((links.sources i).map part).sum =
      ∑ i ∈ range links.size, links.degree i * part i := by
  calc ∑ i ∈ range links.size, ((links.sources i).map part).sum
      = ∑ i ∈ range links.size, ((joined.filter (·.2 == i)).map (part ·.1)).sum := by
        apply sum_congr rfl
        intro i member
        rw [described.sources i (mem_range.mp member), List.map_reverse, List.sum_reverse,
          List.map_map]
        rfl
    _ = (joined.map (part ·.1)).sum :=
        sum_by_position (·.2) _ fun pair member => (described.inside pair member).2
    _ = ∑ i ∈ range links.size, ((joined.filter (·.1 == i)).map (part ·.1)).sum :=
        (sum_by_position (·.1) _ fun pair member => (described.inside pair member).1).symm
    _ = ∑ i ∈ range links.size, links.degree i * part i := by
        apply sum_congr rfl
        intro i member
        have same : ((joined.filter (·.1 == i)).map (part ·.1)) =
            (joined.filter (·.1 == i)).map fun _ => part i := by
          apply List.map_congr_left
          intro pair listed
          have source : pair.1 = i := by simpa using (List.mem_filter.mp listed).2
          rw [source]
        rw [same, List.map_const', List.sum_replicate, nsmul_eq_mul,
          described.degree i (mem_range.mp member), List.countP_eq_length_filter]

theorem toList_eq (ranks : Array ℚ) :
    ranks.toList = (List.range ranks.size).map (ranks.getD · 0) := by
  refine List.ext_getElem (by simp) fun i held _ => ?_
  have inside : i < ranks.size := held
  simp [inside]

theorem toList_sum (ranks : Array ℚ) :
    ranks.toList.sum = ∑ i ∈ range ranks.size, ranks.getD i 0 := by
  conv_lhs => rw [toList_eq]
  rfl

/-- What is handed on and what stays with positions without links is everything. -/
theorem handed_and_dangling (described : Described links joined) (ranks : Array ℚ) :
    dangling links ranks +
        ∑ i ∈ range links.size, ((links.sources i).map (share links ranks)).sum =
      ∑ i ∈ range links.size, ranks.getD i 0 := by
  have stays : dangling links ranks =
      ∑ i ∈ range links.size with links.degree i = 0, ranks.getD i 0 := by
    rw [dangling, sum_eq]
    rfl
  rw [handed_total described, stays, sum_filter, ← sum_add_distrib]
  apply sum_congr rfl
  intro i _
  by_cases none : links.degree i = 0
  · simp [none]
  · have divisor : (links.degree i : ℚ) ≠ 0 := Nat.cast_ne_zero.mpr none
    rw [if_neg none, zero_add]
    exact mul_div_cancel₀ _ divisor

theorem step_at (links : Links) (damping : ℚ) (ranks : Array ℚ) (inside : i < links.size) :
    (step links damping ranks).getD i 0 =
      (1 - damping) * (1 / links.size) + damping * dangling links ranks * (1 / links.size) +
        damping * ((links.sources i).map (share links ranks)).sum := by
  unfold step
  simp [sum_eq, inside, uniform, Scalar.ofNat]

theorem step_size (links : Links) (damping : ℚ) (ranks : Array ℚ) :
    (step links damping ranks).size = links.size := by
  simp [step]

/-- After an iteration there is what everyone gets and, damped, what was held before. -/
theorem step_sum (described : Described links joined) (filled : 0 < links.size) (damping : ℚ)
    (ranks : Array ℚ) :
    ∑ i ∈ range links.size, (step links damping ranks).getD i 0 =
      (1 - damping) + damping * ∑ i ∈ range links.size, ranks.getD i 0 := by
  have divisor : (links.size : ℚ) ≠ 0 := Nat.cast_ne_zero.mpr filled.ne'
  rw [sum_congr rfl fun i member => step_at links damping ranks (mem_range.mp member),
    sum_add_distrib, sum_const, card_range, nsmul_eq_mul, ← mul_sum]
  calc _ = (1 - damping) + damping * (dangling links ranks +
        ∑ i ∈ range links.size, ((links.sources i).map (share links ranks)).sum) := by
        field_simp
        ring
    _ = _ := by rw [handed_and_dangling described]

/-- An iteration keeps the total. -/
theorem step_total (described : Described links joined) (filled : 0 < links.size) (damping : ℚ)
    {ranks : Array ℚ} (sized : ranks.size = links.size) (total : ranks.toList.sum = 1) :
    (step links damping ranks).toList.sum = 1 := by
  rw [toList_sum, sized] at total
  rw [toList_sum, step_size, step_sum described filled, total]
  ring

/-- What is handed around is not negative as long as no rank is. -/
theorem step_bounded (links : Links) {damping : ℚ} (low : 0 ≤ damping) {ranks : Array ℚ}
    (nonneg : ∀ i, 0 ≤ ranks.getD i 0) :
    ∀ rank ∈ (step links damping ranks).toList, (1 - damping) / links.size ≤ rank := by
  intro rank member
  rw [toList_eq, step_size] at member
  obtain ⟨i, position, rfl⟩ := List.mem_map.mp member
  rw [step_at links damping ranks (List.mem_range.mp position)]
  have stays : 0 ≤ dangling links ranks := by
    rw [dangling, sum_eq]
    apply List.sum_nonneg
    intro held listed
    obtain ⟨j, -, rfl⟩ := List.mem_map.mp listed
    exact nonneg j
  have handed : 0 ≤ ((links.sources i).map (share links ranks)).sum := by
    apply List.sum_nonneg
    intro part listed
    obtain ⟨j, -, rfl⟩ := List.mem_map.mp listed
    exact div_nonneg (nonneg j) (Nat.cast_nonneg _)
  have spread : 0 ≤ damping * dangling links ranks * (1 / links.size) :=
    mul_nonneg (mul_nonneg low stays) (one_div_nonneg.mpr (Nat.cast_nonneg _))
  have damped : 0 ≤ damping * ((links.sources i).map (share links ranks)).sum :=
    mul_nonneg low handed
  rw [mul_one_div]
  linarith

end

theorem limited_bounds (damping : ℚ) : 0 ≤ limited damping ∧ limited damping ≤ 1 :=
  ⟨le_max_left _ _, max_le zero_le_one (min_le_right _ _)⟩

private theorem leastRank_nonneg (size : Nat) (damping : ℚ) : 0 ≤ leastRank size damping :=
  div_nonneg (sub_nonneg.mpr (limited_bounds damping).2) (Nat.cast_nonneg size)

/-- The step: an iteration shares out the same whole. -/
theorem step_shared {links : Links} {ranks : Array ℚ} (described : Described links joined)
    (filled : 0 < links.size)
    (shared : Shared links.size (leastRank links.size damping) ranks) :
    Shared links.size (leastRank links.size damping) (step links (limited damping) ranks) := by
  have nonneg (i : Nat) : 0 ≤ ranks.getD i 0 := by
    by_cases inside : i < ranks.size
    · have listed : ranks.getD i 0 ∈ ranks.toList := by
        rw [toList_eq]
        exact List.mem_map.mpr ⟨i, List.mem_range.mpr inside, rfl⟩
      exact (leastRank_nonneg _ damping).trans (shared.bounded _ listed)
    · simp [inside]
  refine ⟨step_size links _ ranks, step_bounded links (limited_bounds damping).1 nonneg, ?_⟩
  exact step_total described filled _ shared.sized shared.total

private theorem start_shared (filled : 0 < size) (damping : ℚ) :
    Shared size (leastRank size damping) (Array.replicate size (1 / (size : ℚ))) := by
  have divisor : (size : ℚ) ≠ 0 := Nat.cast_ne_zero.mpr filled.ne'
  refine ⟨Array.size_replicate, ?_, ?_⟩
  · intro rank member
    rw [Array.toList_replicate] at member
    rw [List.eq_of_mem_replicate member, leastRank]
    have := (limited_bounds damping).1
    gcongr
    linarith
  · rw [Array.toList_replicate, List.sum_replicate, nsmul_eq_mul, mul_one_div_cancel divisor]

/-- The run: so do any number of iterations. -/
theorem iterated_shared {table : SymbolTable} (filled : table.symbols ≠ []) (edges : List Edge)
    (damping : ℚ) (count : Nat) :
    Shared table.symbols.length (leastRank table.symbols.length damping)
      (iterated (.build table edges) damping count) := by
  have positive : 0 < table.symbols.length := List.length_pos_iff.mpr filled
  induction count with
  | zero => exact start_shared positive damping
  | succ count ih =>
    rw [iterated, Function.iterate_succ_apply']
    exact step_shared (ofGraph_described table edges) positive ih

/-- Iterating stops after some number of iterations, of which the first is always made. -/
theorem iterate_counted {α : Type} [Scalar α] (links : Links) (damping : α) (limit : Nat)
    (ranks : Array α) : ∃ count, count ≤ limit ∧ (0 < limit → 0 < count) ∧
      iterate links damping limit ranks = (step links damping)^[count] ranks := by
  induction limit generalizing ranks with
  | zero => exact ⟨0, le_rfl, id, rfl⟩
  | succ limit ih =>
    rw [iterate]
    split
    · exact ⟨1, by omega, fun _ => one_pos, rfl⟩
    · obtain ⟨count, bound, -, reached⟩ := ih (step links damping ranks)
      exact ⟨count + 1, by omega, fun _ => Nat.succ_pos _, reached⟩

theorem ranks_counted (g : Graph) (damping : ℚ) (limit : Nat) :
    ∃ count, 0 < count ∧ count ≤ max limit 1 ∧
      ranks g damping limit = iterated g damping count := by
  obtain ⟨count, bound, made, reached⟩ := iterate_counted (Links.ofGraph g) (limited damping)
    (max limit 1) (Array.replicate g.table.symbols.length (1 / (g.table.symbols.length : ℚ)))
  refine ⟨count, made (by omega), bound, ?_⟩
  rw [ranks, clampUnit_eq]
  exact reached

/-- The ranks of a graph that is not empty, in exact fractions, for every damping and every limit
on the iterations. No quotient has the divisor zero: there is a symbol, and every symbol that hands
something on has links. After every iteration the ranks are one for each symbol, none is below what
a symbol gets whatever the links are, and together they are one. The result is what some number of
iterations reaches, so its scores are one for each id and nothing else, with the same bound and
total. -/
theorem ranks_share_a_whole {table : SymbolTable} (filled : table.symbols ≠ []) (edges : List Edge)
    (damping : ℚ) (limit : Nat) :
    (0 < table.symbols.length ∧ ∀ i < table.symbols.length,
      ∀ source ∈ (Links.ofGraph (.build table edges)).sources i,
        0 < (Links.ofGraph (.build table edges)).degree source) ∧
    (∀ count, Shared table.symbols.length (leastRank table.symbols.length damping)
      (iterated (.build table edges) damping count)) ∧
    (∃ count, 0 < count ∧ count ≤ max limit 1 ∧
      ranks (.build table edges) damping limit = iterated (.build table edges) damping count) ∧
    (scores (.build table edges) damping limit).map (·.1) = table.ids ∧
    (∀ score ∈ scores (.build table edges) damping limit,
      leastRank table.symbols.length damping ≤ score.2) ∧
    ((scores (.build table edges) damping limit).map (·.2)).sum = 1 := by
  obtain ⟨count, made, bound, reached⟩ := ranks_counted (.build table edges) damping limit
  have shared := iterated_shared filled edges damping count
  rw [← reached] at shared
  have matched : table.ids.length = (ranks (.build table edges) damping limit).toList.length :=
    (List.length_map _).trans shared.sized.symm
  refine ⟨⟨List.length_pos_iff.mpr filled, ?_⟩, iterated_shared filled edges damping,
    ⟨count, made, bound, reached⟩, ?_, ?_, ?_⟩
  · intro i inside source member
    exact source_has_links (ofGraph_described table edges) inside member
  · exact List.map_fst_zip matched.le
  · intro score member
    exact shared.bounded _ (List.of_mem_zip member).2
  · exact (congrArg List.sum (List.map_snd_zip matched.ge)).trans shared.total

open GraphEdges in
/-- One symbol that calls another one and imports it too. -/
theorem two_symbols_share :
    twoSymbols.symbols ≠ [] ∧
      ((scores (.build twoSymbols fiveEdges) (17 / 20 : ℚ) 100).map (·.1) = ["a", "b"] ∧
        ((scores (.build twoSymbols fiveEdges) (17 / 20 : ℚ) 100).map (·.2)).sum = 1) := by
  have filled : twoSymbols.symbols ≠ [] := by decide +kernel
  obtain ⟨-, -, -, ids, -, total⟩ := ranks_share_a_whole filled fiveEdges (17 / 20) 100
  exact ⟨filled, ids.trans (by decide +kernel), total⟩

end SourceAtlas.RankMass
