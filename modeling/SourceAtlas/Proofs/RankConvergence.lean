import Mathlib.Algebra.Order.Field.Basic
import Mathlib.LinearAlgebra.FiniteDimensional.Basic
import SourceAtlas.Proofs.RankRenaming

/-! How far ranks are from where iterating leads. All that an iteration does to ranks is to move them
around and to damp them, and moving keeps totals. So it brings any two ranks of a graph closer by the
damping, measured by all their differences together. Ranks that stay as they are exist for this
reason, and after an iteration that changed little the ranks are close to them. -/
namespace SourceAtlas.RankConvergence
open SourceAtlas.PageRank ExactScalars RankMass RankRenaming Finset

/-- How far apart two ranks are at each position. -/
def differences (x y : Array ℚ) : Array ℚ :=
  (Array.range x.size).map fun i => |x.getD i 0 - y.getD i 0|

/-- How far apart two ranks are at all positions together. -/
def distance (x y : Array ℚ) : ℚ :=
  (differences x y).toList.sum

/-- Ranks that share out a whole and that an iteration leaves as they are. -/
structure Stationary (g : Graph) (damping : ℚ) (ranks : Array ℚ) : Prop where
  shared : Shared g.table.symbols.length 0 ranks
  fixed : step (Links.ofGraph g) (limited damping) ranks = ranks

/-- What an iteration moves to a position, damped. The rest of the new rank is the same whatever the
ranks were. -/
def moved (links : Links) (damping : ℚ) (ranks : Array ℚ) (i : Nat) : ℚ :=
  damping * (dangling links ranks * (1 / links.size) +
    ((links.sources i).map (share links ranks)).sum)

theorem differences_size (x y : Array ℚ) : (differences x y).size = x.size := by
  simp [differences]

theorem differences_at (y : Array ℚ) (inside : i < x.size) :
    (differences x y).getD i 0 = |x.getD i 0 - y.getD i 0| := by
  simp [differences, inside]

theorem distance_eq_sum (x y : Array ℚ) :
    distance x y = ∑ i ∈ range x.size, |x.getD i 0 - y.getD i 0| := by
  rw [distance, toList_sum, differences_size]
  exact sum_congr rfl fun i member => differences_at y (mem_range.mp member)

theorem abs_sum_sub_le (f h : Nat → ℚ) (positions : List Nat) :
    |(positions.map f).sum - (positions.map h).sum| ≤
      (positions.map fun i => |f i - h i|).sum := by
  induction positions with
  | nil => simp
  | cons i rest ih =>
    simp only [List.map_cons, List.sum_cons, add_sub_add_comm]
    exact (abs_add_le _ _).trans (by gcongr)

section
variable {x y : Array ℚ}

theorem distance_triangle (same : y.size = x.size) (z : Array ℚ) :
    distance x z ≤ distance x y + distance y z := by
  rw [distance_eq_sum, distance_eq_sum, distance_eq_sum, same, ← sum_add_distrib]
  exact sum_le_sum fun i _ => abs_sub_le _ _ _

theorem eq_of_positions (same : x.size = y.size)
    (alike : ∀ i < x.size, x.getD i 0 = y.getD i 0) : x = y := by
  refine Array.ext same fun i inside inside' => ?_
  simpa [inside, inside'] using alike i inside

theorem eq_of_distance (same : x.size = y.size) (close : distance x y ≤ 0) : x = y := by
  rw [distance_eq_sum] at close
  have none := (sum_eq_zero_iff_of_nonneg fun i _ => abs_nonneg (x.getD i 0 - y.getD i 0)).mp
    (le_antisymm close (sum_nonneg fun i _ => abs_nonneg _))
  exact eq_of_positions same fun i inside =>
    sub_eq_zero.mp (abs_eq_zero.mp (none i (mem_range.mpr inside)))

/-- No rank changes more than the largest change, so together they change at most as much as if all
did. -/
theorem distance_le_change (x y : Array ℚ) : distance x y ≤ x.size * change x y := by
  rw [distance_eq_sum]
  calc _ ≤ ∑ _i ∈ range x.size, change x y := by
        refine sum_le_sum fun i member => ?_
        refine le_foldl_larger _ _ _ (List.mem_cons_of_mem _ (List.mem_map.mpr ⟨i, ?_, ?_⟩))
        · exact List.mem_range.mpr (mem_range.mp member)
        · simp [Scalar.ofNat, distance_eq]
    _ = x.size * change x y := by rw [sum_const, card_range, nsmul_eq_mul]

end

section
variable {links : Links} {joined : List (Nat × Nat)} {x y : Array ℚ}

theorem step_moved (links : Links) (damping : ℚ) (ranks : Array ℚ) (inside : i < links.size) :
    (step links damping ranks).getD i 0 =
      (1 - damping) * (1 / links.size) + moved links damping ranks i := by
  rw [step_at links damping ranks inside, moved]
  ring

/-- Moving keeps the total, but for the damping. -/
theorem moved_total (described : Described links joined) (filled : 0 < links.size) (damping : ℚ)
    (ranks : Array ℚ) :
    ∑ i ∈ range links.size, moved links damping ranks i =
      damping * ∑ i ∈ range links.size, ranks.getD i 0 := by
  have divisor : (links.size : ℚ) ≠ 0 := Nat.cast_ne_zero.mpr filled.ne'
  simp only [moved]
  rw [← handed_and_dangling described, ← mul_sum, sum_add_distrib, sum_const, card_range,
    nsmul_eq_mul]
  field_simp

private theorem share_differences (y : Array ℚ) (inside : i < x.size) :
    share links (differences x y) i = |share links x i - share links y i| := by
  have held := differences_at y inside
  simp only [share, Scalar.ofNat, Nat.cast_zero] at held ⊢
  rw [held, ← sub_div, abs_div, Nat.abs_cast]

private theorem dangling_apart (sized : x.size = links.size) (y : Array ℚ) :
    |dangling links x - dangling links y| ≤ dangling links (differences x y) := by
  simp only [dangling, sum_eq]
  refine (abs_sum_sub_le _ _ _).trans_eq (congrArg List.sum (List.map_congr_left fun i member => ?_))
  have inside : i < x.size := by
    rw [sized]
    exact List.mem_range.mp (List.mem_filter.mp member).1
  simpa [Scalar.ofNat] using (differences_at y inside).symm

private theorem handed_apart (described : Described links joined) (sized : x.size = links.size)
    (y : Array ℚ) (inside : i < links.size) :
    |((links.sources i).map (share links x)).sum - ((links.sources i).map (share links y)).sum| ≤
      ((links.sources i).map (share links (differences x y))).sum := by
  refine (abs_sum_sub_le _ _ _).trans_eq (congrArg List.sum (List.map_congr_left fun j member => ?_))
  rw [described.sources i inside, List.mem_reverse] at member
  obtain ⟨pair, listed, rfl⟩ := List.mem_map.mp member
  have source : pair.1 < x.size := by
    rw [sized]
    exact (described.inside pair (List.mem_filter.mp listed).1).1
  exact (share_differences y source).symm

/-- What is moved from two ranks is at most as far apart as what is moved from their differences. -/
theorem moved_apart (described : Described links joined) (low : 0 ≤ damping)
    (sized : x.size = links.size) (y : Array ℚ) (inside : i < links.size) :
    |moved links damping x i - moved links damping y i| ≤
      moved links damping (differences x y) i := by
  have spread : 0 ≤ 1 / (links.size : ℚ) := one_div_nonneg.mpr (Nat.cast_nonneg _)
  rw [moved, moved, moved, ← mul_sub, add_sub_add_comm, ← sub_mul, abs_mul, abs_of_nonneg low]
  gcongr
  refine (abs_add_le _ _).trans ?_
  rw [abs_mul, abs_of_nonneg spread]
  gcongr
  · exact dangling_apart sized y
  · exact handed_apart described sized y inside

/-- The step: an iteration brings ranks closer by the damping. -/
theorem step_contracts (described : Described links joined) (filled : 0 < links.size)
    (low : 0 ≤ damping) (sized : x.size = links.size) (y : Array ℚ) :
    distance (step links damping x) (step links damping y) ≤ damping * distance x y := by
  rw [distance_eq_sum, step_size]
  calc _ ≤ ∑ i ∈ range links.size, moved links damping (differences x y) i := by
        refine sum_le_sum fun i member => ?_
        have inside := mem_range.mp member
        rw [step_moved links damping x inside, step_moved links damping y inside,
          add_sub_add_left_eq_sub]
        exact moved_apart described low sized y inside
    _ = damping * distance x y := by
        rw [moved_total described filled, distance, toList_sum, differences_size, sized]

/-- The run: each iteration brings them closer once more to ranks that stay as they are. -/
theorem iterate_contracts (described : Described links joined) (filled : 0 < links.size)
    (low : 0 ≤ damping) (sized : x.size = links.size) (fixed : step links damping y = y)
    (count : Nat) :
    distance ((step links damping)^[count] x) y ≤ damping ^ count * distance x y := by
  induction count generalizing x with
  | zero => simp
  | succ count ih =>
    have nonneg : 0 ≤ damping ^ count := pow_nonneg low count
    rw [Function.iterate_succ_apply]
    calc _ ≤ damping ^ count * distance (step links damping x) y := ih (step_size links damping x)
      _ = damping ^ count * distance (step links damping x) (step links damping y) := by rw [fixed]
      _ ≤ damping ^ count * (damping * distance x y) := by
          gcongr
          exact step_contracts described filled low sized y
      _ = damping ^ (count + 1) * distance x y := by ring

/-- After an iteration that changed no rank by more than a bound. -/
theorem settled_distance (described : Described links joined) (filled : 0 < links.size)
    (low : 0 ≤ damping) (damped : damping < 1) (sized : x.size = links.size)
    (fixed : step links damping y = y) (settled : change x (step links damping x) ≤ bound) :
    distance (step links damping x) y ≤ links.size * bound * damping / (1 - damping) := by
  have contracted := step_contracts described filled low sized y
  rw [fixed] at contracted
  -- before the iteration the ranks were at most what it changed further away
  have around := distance_triangle ((step_size links damping x).trans sized.symm) y
  have changed : distance x (step links damping x) ≤ links.size * bound := by
    have largest := distance_le_change x (step links damping x)
    rw [sized] at largest
    exact largest.trans (by gcongr)
  rw [le_div_iff₀ (sub_pos.mpr damped)]
  nlinarith

/-- What is moved from a combination of ranks is that combination of what is moved from each. -/
theorem moved_combined {a b : ℚ} {z : Array ℚ}
    (combined : ∀ i, z.getD i 0 = a * x.getD i 0 + b * y.getD i 0) (links : Links) (damping : ℚ)
    (i : Nat) :
    moved links damping z i = a * moved links damping x i + b * moved links damping y i := by
  have shares : share links z = fun i => a * share links x i + b * share links y i := by
    funext i
    simp only [share, Scalar.ofNat, Nat.cast_zero, combined]
    ring
  have stays : dangling links z = a * dangling links x + b * dangling links y := by
    simp only [dangling, sum_eq, Scalar.ofNat, Nat.cast_zero, combined, List.sum_map_add,
      List.sum_map_mul_left]
  simp only [moved, shares, stays, List.sum_map_add, List.sum_map_mul_left]
  ring

private theorem ofFn_at (v : Fin n → ℚ) (i : Nat) :
    (Array.ofFn v).getD i 0 = if inside : i < n then v ⟨i, inside⟩ else 0 := by
  by_cases inside : i < n <;> simp [inside]

/-- Ranks less what an iteration moves from them. For ranks that stay as they are this is what
everyone gets. -/
def unmoved (links : Links) (damping : ℚ) :
    (Fin links.size → ℚ) →ₗ[ℚ] (Fin links.size → ℚ) where
  toFun v i := v i - moved links damping (Array.ofFn v) i
  map_add' v w := by
    have combined (i : Nat) : (Array.ofFn (v + w)).getD i 0 =
        1 * (Array.ofFn v).getD i 0 + 1 * (Array.ofFn w).getD i 0 := by
      simp only [ofFn_at]
      split_ifs <;> simp
    funext i
    simp only [moved_combined combined, Pi.add_apply]
    ring
  map_smul' c v := by
    have combined (i : Nat) : (Array.ofFn (c • v)).getD i 0 =
        c * (Array.ofFn v).getD i 0 + 0 * (Array.ofFn v).getD i 0 := by
      simp only [ofFn_at]
      split_ifs <;> simp
    funext i
    simp only [moved_combined combined, Pi.smul_apply, smul_eq_mul, RingHom.id_apply]
    ring

theorem unmoved_injective (described : Described links joined) (filled : 0 < links.size)
    (low : 0 ≤ damping) (damped : damping < 1) : Function.Injective (unmoved links damping) := by
  intro v w same
  have kept : distance (step links damping (Array.ofFn v)) (step links damping (Array.ofFn w)) =
      distance (Array.ofFn v) (Array.ofFn w) := by
    rw [distance_eq_sum, distance_eq_sum, step_size, Array.size_ofFn]
    refine sum_congr rfl fun i member => ?_
    have inside := mem_range.mp member
    have left : v ⟨i, inside⟩ - moved links damping (Array.ofFn v) i =
        w ⟨i, inside⟩ - moved links damping (Array.ofFn w) i := congrFun same ⟨i, inside⟩
    rw [step_moved links damping _ inside, step_moved links damping _ inside, ofFn_at, ofFn_at,
      dif_pos inside, dif_pos inside]
    congr 1
    linarith
  have sized : (Array.ofFn v).size = links.size := Array.size_ofFn
  have contracted := step_contracts described filled low sized (Array.ofFn w)
  rw [kept] at contracted
  have close : distance (Array.ofFn v) (Array.ofFn w) ≤ 0 := by nlinarith
  have equal := eq_of_distance (by simp) close
  funext i
  simpa [ofFn_at] using congrArg (·.getD i 0) equal

/-- Some ranks stay as they are. Fractions have no limits, so iterating does not reach them; but the
equations they have to satisfy are linear and have at most one solution, hence one. -/
theorem exists_fixed (described : Described links joined) (filled : 0 < links.size)
    (low : 0 ≤ damping) (damped : damping < 1) :
    ∃ ranks : Array ℚ, ranks.size = links.size ∧ step links damping ranks = ranks := by
  have onto := LinearMap.injective_iff_surjective.mp (unmoved_injective described filled low damped)
  obtain ⟨v, solved⟩ := onto fun _ => (1 - damping) * (1 / links.size)
  refine ⟨Array.ofFn v, Array.size_ofFn, ?_⟩
  refine eq_of_positions ((step_size ..).trans Array.size_ofFn.symm) fun i inside => ?_
  have position : i < links.size := by simpa only [step_size] using inside
  have here : v ⟨i, position⟩ - moved links damping (Array.ofFn v) i =
      (1 - damping) * (1 / links.size) := congrFun solved ⟨i, position⟩
  rw [step_moved links damping _ position, ← here, ofFn_at, dif_pos position, sub_add_cancel]

/-- Signs can only cancel: what an iteration makes of ranks is at most what it makes of their
magnitudes. -/
private theorem step_magnitudes (described : Described links joined) (low : 0 ≤ damping)
    (high : damping ≤ 1) (sized : x.size = links.size) (inside : i < links.size) :
    |(step links damping x).getD i 0| ≤ (step links damping (differences x #[])).getD i 0 := by
  have zero (i : Nat) : (#[] : Array ℚ).getD i 0 =
      0 * (#[] : Array ℚ).getD i 0 + 0 * (#[] : Array ℚ).getD i 0 := by simp
  have apart := moved_apart described low sized #[] inside
  rw [moved_combined zero, zero_mul, add_zero, sub_zero] at apart
  have part : 0 ≤ (1 - damping) * (1 / (links.size : ℚ)) :=
    mul_nonneg (sub_nonneg.mpr high) (one_div_nonneg.mpr (Nat.cast_nonneg _))
  rw [step_moved links damping _ inside, step_moved links damping _ inside]
  calc _ ≤ |(1 - damping) * (1 / (links.size : ℚ))| + |moved links damping x i| := abs_add_le _ _
    _ ≤ _ := by
        rw [abs_of_nonneg part]
        gcongr

/-- Ranks that stay as they are share out a whole. -/
theorem fixed_shared (described : Described links joined) (filled : 0 < links.size)
    (low : 0 ≤ damping) (damped : damping < 1) (sized : x.size = links.size)
    (fixed : step links damping x = x) : Shared links.size 0 x := by
  have total : ∑ i ∈ range links.size, x.getD i 0 = 1 := by
    have after := step_sum described filled damping x
    rw [fixed] at after
    nlinarith
  -- the magnitudes add up to no more, so no rank differs from its magnitude
  have magnitude (i : Nat) (member : i ∈ range links.size) :
      (differences x #[]).getD i 0 = |x.getD i 0| := by
    rw [differences_at _ ((mem_range.mp member).trans_eq sized.symm)]
    simp
  have bounded : ∑ i ∈ range links.size, |x.getD i 0| ≤ 1 := by
    have after := step_sum described filled damping (differences x #[])
    rw [sum_congr rfl magnitude] at after
    have below : ∑ i ∈ range links.size, |x.getD i 0| ≤
        ∑ i ∈ range links.size, (step links damping (differences x #[])).getD i 0 := by
      refine sum_le_sum fun i member => ?_
      have larger := step_magnitudes described low damped.le sized (mem_range.mp member)
      rwa [fixed] at larger
    nlinarith
  have signless := (sum_eq_sum_iff_of_le fun i _ => le_abs_self (x.getD i 0)).mp
    (le_antisymm (sum_le_sum fun i _ => le_abs_self _) (bounded.trans_eq total.symm))
  refine ⟨sized, fun rank member => ?_, ?_⟩
  · rw [toList_eq, sized] at member
    obtain ⟨i, position, rfl⟩ := List.mem_map.mp member
    rw [signless i (mem_range.mpr (List.mem_range.mp position))]
    exact abs_nonneg _
  · rw [toList_sum, sized, total]

end

theorem limited_below (damped : damping < 1) : limited damping < 1 :=
  max_lt one_pos (min_lt_of_left_lt damped)

theorem exists_stationary {table : SymbolTable} (filled : table.symbols ≠ []) (edges : List Edge)
    (damped : damping < 1) : ∃ ranks, Stationary (.build table edges) damping ranks := by
  have positive : 0 < table.symbols.length := List.length_pos_iff.mpr filled
  have described := ofGraph_described table edges
  have low := (limited_bounds damping).1
  obtain ⟨ranks, sized, fixed⟩ := exists_fixed described positive low (limited_below damped)
  exact ⟨ranks, fixed_shared described positive low (limited_below damped) sized fixed, fixed⟩

theorem iterated_succ (g : Graph) (damping : ℚ) (count : Nat) :
    iterated g damping (count + 1) =
      step (Links.ofGraph g) (limited damping) (iterated g damping count) :=
  Function.iterate_succ_apply' ..

theorem scores_ranks {g : Graph} (sized : (ranks g damping limit).size = g.table.symbols.length) :
    ((scores g damping limit).map (·.2)).toArray = (ranks g damping limit : Array ℚ) := by
  have matched : (ranks g damping limit).toList.length ≤ g.table.ids.length :=
    (sized.trans (List.length_map _).symm).le
  rw [scores, List.map_snd_zip matched]

theorem tolerance_eq : (tolerance : ℚ) = 1 / 10 ^ 6 := by
  simp only [tolerance, Scalar.ofNat]
  norm_num

/-- Ranks of a graph that is not empty, in exact fractions, for every damping below one. An iteration
brings any two ranks closer by the damping. There are ranks that share out a whole and stay as they
are; each iteration brings the ranks closer to them by the damping, and if the last one changed no
rank by a millionth or more, then the scores are as close to them as this allows. -/
theorem iterating_converges {table : SymbolTable} (filled : table.symbols ≠ []) (edges : List Edge)
    {damping : ℚ} (damped : damping < 1) (limit : Nat) :
    (∀ x y : Array ℚ, x.size = table.symbols.length → y.size = table.symbols.length →
      distance (step (Links.ofGraph (.build table edges)) (limited damping) x)
          (step (Links.ofGraph (.build table edges)) (limited damping) y) ≤
        limited damping * distance x y) ∧
    (∃ p, Stationary (.build table edges) damping p) ∧
    (∀ p, Stationary (.build table edges) damping p → ∀ count,
      distance (iterated (.build table edges) damping count) p ≤
        limited damping ^ count * distance (iterated (.build table edges) damping 0) p) ∧
    ∃ count, StopsAfter (.build table edges) damping limit count ∧
      (changeAfter (.build table edges) damping (count - 1) < 1 / 10 ^ 6 →
        ∀ p, Stationary (.build table edges) damping p →
          distance ((scores (.build table edges) damping limit).map (·.2)).toArray p ≤
            table.symbols.length * (1 / 10 ^ 6) * limited damping / (1 - limited damping)) := by
  have positive : 0 < table.symbols.length := List.length_pos_iff.mpr filled
  have described := ofGraph_described table edges
  have low := (limited_bounds damping).1
  refine ⟨fun x y sized _ => step_contracts described positive low sized y,
    exists_stationary filled edges damped, fun p stationary count => ?_, ?_⟩
  · exact iterate_contracts described positive low Array.size_replicate stationary.fixed count
  · obtain ⟨count, stops⟩ := stops_after (.build table edges) damping limit
    refine ⟨count, stops, fun settled p stationary => ?_⟩
    have sized (count : Nat) := (iterated_shared filled edges damping count).sized
    obtain ⟨before, rfl⟩ := Nat.exists_eq_add_of_le' stops.made.1
    rw [changeAfter, Nat.add_sub_cancel, iterated_succ] at settled
    rw [scores_ranks (stops.reached ▸ sized (before + 1)), stops.reached, iterated_succ]
    exact settled_distance described positive low (limited_below damped) (sized before)
      stationary.fixed settled.le

open GraphEdges in
private theorem twoSymbols_stationary :
    Stationary (.build twoSymbols fiveEdges) (17 / 20) #[20 / 57, 37 / 57] := by
  refine ⟨⟨rfl, ?_, ?_⟩, ?_⟩ <;> decide +kernel

open GraphEdges in
/-- One symbol that calls another one and imports it too: a hundred iterations are allowed, but the
ranks settle long before. -/
theorem two_symbols_converge :
    twoSymbols.symbols ≠ [] ∧ (17 / 20 : ℚ) < 1 ∧
      Stationary (.build twoSymbols fiveEdges) (17 / 20) #[20 / 57, 37 / 57] ∧
      (∃ count ≤ 21, StopsAfter (.build twoSymbols fiveEdges) (17 / 20) 100 count ∧
        changeAfter (.build twoSymbols fiveEdges) (17 / 20) (count - 1) < 1 / 10 ^ 6) ∧
      distance ((scores (.build twoSymbols fiveEdges) (17 / 20) 100).map (·.2)).toArray
          #[20 / 57, 37 / 57] ≤
        twoSymbols.symbols.length * (1 / 10 ^ 6) * limited (17 / 20) / (1 - limited (17 / 20)) := by
  have filled : twoSymbols.symbols ≠ [] := by decide +kernel
  have damped : (17 / 20 : ℚ) < 1 := by decide +kernel
  obtain ⟨-, -, -, count, stops, close⟩ := iterating_converges filled fiveEdges damped 100
  have early : count ≤ 21 := by
    by_contra late
    have going := stops.going 20 (by omega)
    have settled : changeAfter (.build twoSymbols fiveEdges) (17 / 20) 20 < tolerance := by
      decide +kernel
    exact absurd settled (not_lt.mpr going)
  have settled := stops.last.resolve_left (by omega)
  rw [tolerance_eq] at settled
  exact ⟨filled, damped, twoSymbols_stationary, ⟨count, early, stops, settled⟩,
    close settled _ twoSymbols_stationary⟩

end SourceAtlas.RankConvergence
