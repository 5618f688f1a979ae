import Mathlib.Data.List.Sort
import SourceAtlas.Graph
import SourceAtlas.Proofs.GraphEdges

/-! The order of ranked symbols. Ranks compare in the total order of doubles, and symbols of equal
rank by their ids, so no two symbols of a graph tie. There is then one arrangement of all symbols,
and the symbols with the highest ranks are its beginning. -/
namespace SourceAtlas.RankOrder
open MergedSymbols RankedGraph

/-- The sign bit of a double is set. -/
def Negative (x : Float) : Prop :=
  2 ^ 63 ≤ x.toBits.toNat

/-- The bits of a double below its sign. -/
def magnitude (x : Float) : Nat :=
  x.toBits.toNat % 2 ^ 63

/-- The total order of doubles: a negative one is below one that is not, and within a sign the
magnitude decides, upwards or downwards. -/
inductive Below : Float → Float → Prop where
  | sign (negative : Negative x) (other : ¬ Negative y) : Below x y
  | upward (first : ¬ Negative x) (second : ¬ Negative y) (less : magnitude x < magnitude y) :
      Below x y
  | downward (first : Negative x) (second : Negative y) (greater : magnitude y < magnitude x) :
      Below x y

/-- A ranked symbol stands before another: the higher rank first, then the smaller id. -/
inductive Before : Symbol × Float → Symbol × Float → Prop where
  | rank (higher : Below b.2 a.2) : Before a b
  | id (tied : a.2 = b.2) (smaller : a.1.id < b.1.id) : Before a b

/-- Ranks for exactly the symbols of a table: those that were given, and zero where none was. -/
structure Completes (table : SymbolTable) (given ranks : List (String × Float)) : Prop where
  ids : ranks.map (·.1) = table.ids
  kept : ∀ id ∈ table.ids, ∀ rank, given.lookup id = some rank → ranks.lookup id = some rank
  missing : ∀ id ∈ table.ids, given.lookup id = none → ranks.lookup id = some 0
  unknown : ∀ id, id ∉ table.ids → ranks.lookup id = none

/-- The symbols of a graph with their ranks. -/
def entries (r : RankedGraph) : List (Symbol × Float) :=
  r.graph.table.symbols.map fun symbol => (symbol, r.rank symbol.id)

/-- All symbols of a graph in strict order. -/
structure Arranged (r : RankedGraph) (arrangement : List (Symbol × Float)) : Prop where
  complete : arrangement.Perm (entries r)
  strict : arrangement.Pairwise Before

private theorem place_eq (x : Float) :
    place x = if x.toBits.toNat < 2 ^ 63 then (x.toBits.toNat : Int)
      else (2 ^ 63 : Nat) - x.toBits.toNat - 1 :=
  rfl

private theorem place_of_negative (negative : Negative x) : place x = -1 - magnitude x := by
  have bound := x.toBits.toNat_lt
  rw [Negative] at negative
  rw [place_eq, magnitude, if_neg (by omega)]
  omega

private theorem place_of_other (other : ¬ Negative x) : place x = magnitude x := by
  rw [Negative] at other
  rw [place_eq, magnitude, if_pos (by omega)]
  omega

theorem place_lt_iff (x y : Float) : place x < place y ↔ Below x y := by
  constructor
  · intro less
    by_cases first : Negative x
    · by_cases second : Negative y
      · rw [place_of_negative first, place_of_negative second] at less
        exact .downward first second (by omega)
      · exact .sign first second
    · by_cases second : Negative y
      · rw [place_of_other first, place_of_negative second] at less
        omega
      · rw [place_of_other first, place_of_other second] at less
        exact .upward first second (by omega)
  · intro below
    cases below with
    | sign first second =>
      rw [place_of_negative first, place_of_other second]
      omega
    | upward first second less =>
      rw [place_of_other first, place_of_other second]
      omega
    | downward first second greater =>
      rw [place_of_negative first, place_of_negative second]
      omega

/-- Only equal doubles share a place, so the two zeros do not. -/
theorem place_injective : Function.Injective place := by
  intro x y same
  have bits : x.toBits.toNat = y.toBits.toNat := by
    have boundX := x.toBits.toNat_lt
    have boundY := y.toBits.toNat_lt
    rw [place_eq, place_eq] at same
    split_ifs at same <;> omega
  obtain ⟨⟨bitsX, validX⟩⟩ := x
  obtain ⟨⟨bitsY, validY⟩⟩ := y
  obtain rfl : bitsX = bitsY := UInt64.toNat_inj.mp bits
  rfl

theorem precedes_iff (a b : Symbol × Float) :
    precedes a b = true ↔
      place b.2 < place a.2 ∨ (place a.2 = place b.2 ∧ a.1.id ≤ b.1.id) := by
  simp [precedes]

private theorem precedes_trans (a b c : Symbol × Float) (first : precedes a b = true)
    (second : precedes b c = true) : precedes a c = true := by
  rw [precedes_iff] at first second ⊢
  rcases first with higher | ⟨tied, smaller⟩
  · rcases second with higher' | ⟨tied', -⟩
    · exact .inl (higher'.trans higher)
    · exact .inl (tied' ▸ higher)
  · rcases second with higher' | ⟨tied', smaller'⟩
    · exact .inl (tied ▸ higher')
    · exact .inr ⟨tied.trans tied', smaller.trans smaller'⟩

private theorem precedes_total (a b : Symbol × Float) : (precedes a b || precedes b a) = true := by
  rw [Bool.or_eq_true, precedes_iff, precedes_iff]
  rcases lt_trichotomy (place a.2) (place b.2) with less | same | greater
  · exact .inr (.inl less)
  · rcases le_total a.1.id b.1.id with smaller | larger
    · exact .inl (.inr ⟨same, smaller⟩)
    · exact .inr (.inr ⟨same.symm, larger⟩)
  · exact .inl (.inl greater)

/-- Symbols with different ids do not tie. -/
theorem before_of_precedes (first : precedes a b = true) (different : a.1.id ≠ b.1.id) :
    Before a b := by
  rcases (precedes_iff a b).mp first with higher | ⟨tied, smaller⟩
  · exact .rank ((place_lt_iff _ _).mp higher)
  · exact .id (place_injective tied) (lt_of_le_of_ne smaller different)

theorem before_asymm (first : Before a b) (second : Before b a) : False := by
  cases first with
  | rank higher =>
    have less := (place_lt_iff _ _).mpr higher
    cases second with
    | rank higher' => exact lt_asymm less ((place_lt_iff _ _).mpr higher')
    | id tied _ => exact less.ne (congrArg place tied)
  | id tied smaller =>
    cases second with
    | rank higher' => exact ((place_lt_iff _ _).mpr higher').ne (congrArg place tied)
    | id _ smaller' => exact lt_asymm smaller smaller'

section
variable {r : RankedGraph}

/-- Sorting the symbols of a graph arranges them. -/
theorem sorted_arranged (ordered : Ordered r.graph.table) :
    Arranged r ((entries r).mergeSort precedes) := by
  have perm : ((entries r).mergeSort precedes).Perm (entries r) := List.mergeSort_perm _ _
  have ids : (entries r).map (·.1.id) = r.graph.table.ids := by
    simp [entries, SymbolTable.ids]
  have distinct : ((entries r).mergeSort precedes).Pairwise fun a b => a.1.id ≠ b.1.id := by
    have nodup : ((entries r).map (·.1.id)).Nodup := ids ▸ ids_nodup ordered
    exact List.pairwise_map.mp ((perm.map _).nodup_iff.mpr nodup)
  refine ⟨perm, ?_⟩
  apply ((List.pairwise_mergeSort precedes_trans precedes_total _).and distinct).imp
  rintro a b ⟨first, different⟩
  exact before_of_precedes first different

theorem arranged_unique (first : Arranged r arrangement) (second : Arranged r other) :
    arrangement = other := by
  apply List.Perm.eq_of_pairwise _ first.strict second.strict
    (first.complete.trans second.complete.symm)
  intro a b _ _ before after
  exact (before_asymm before after).elim

/-- Everything in the beginning of an arrangement stands before everything that is not. -/
theorem taken_before_left (arranged : Arranged r arrangement) (kept : a ∈ arrangement.take n)
    (member : b ∈ entries r) (left : b ∉ arrangement.take n) : Before a b := by
  have later : b ∈ arrangement.drop n := by
    have listed : b ∈ arrangement.take n ++ arrangement.drop n := by
      rw [List.take_append_drop]
      exact arranged.complete.mem_iff.mpr member
    exact (List.mem_append.mp listed).resolve_left left
  have strict := arranged.strict
  rw [← List.take_append_drop n arrangement] at strict
  exact (List.pairwise_append.mp strict).2.2 a kept b later

end

theorem lookup_listed (value : String → α) (ids : List String) (id : String) :
    (ids.map fun id => (id, value id)).lookup id = if id ∈ ids then some (value id) else none := by
  induction ids with
  | nil => simp
  | cons first rest ih =>
    rw [List.map_cons, List.lookup_cons, ih]
    by_cases same : id = first
    · simp [same]
    · simp [beq_eq_false_iff_ne.mpr same, same]

theorem attach_completes (graph : Graph) (given : List (String × Float)) :
    Completes graph.table given (attach graph given).ranks := by
  have found (id : String) : (attach graph given).ranks.lookup id =
      if id ∈ graph.table.ids then some ((given.lookup id).getD 0) else none :=
    lookup_listed (fun id => (given.lookup id).getD 0) _ id
  refine ⟨?_, ?_, ?_, ?_⟩
  · simp [attach, Function.comp_def]
  · intro id member rank known
    rw [found, if_pos member, known, Option.getD_some]
  · intro id member absent
    rw [found, if_pos member, absent, Option.getD_none]
  · intro id unknown
    rw [found, if_neg unknown]

/-- The symbols with the highest ranks are the beginning of every arrangement, as far as it goes. -/
theorem top_arranged {r : RankedGraph} (ordered : Ordered r.graph.table)
    (arranged : Arranged r arrangement) (n : Nat) :
    r.top n = arrangement.take (min n r.graph.table.symbols.length) := by
  have size : arrangement.length = r.graph.table.symbols.length :=
    arranged.complete.length_eq.trans (List.length_map _)
  rw [← size, ← List.take_eq_take_min, arranged_unique arranged (sorted_arranged ordered)]
  rfl

/-- Ranking the symbols of a graph by any ranks. Every symbol has a rank and nothing else has one:
ranks that were given are kept, and a missing one is zero. There is exactly one strict arrangement
of all symbols by rank and id, and the `n` symbols with the highest ranks are its beginning. So
asking for fewer symbols gives the beginning of what asking for more gives, and a symbol that is
left out comes after every symbol that is not. -/
theorem top_begins_arrangement {graph : Graph} (ordered : Ordered graph.table)
    (given : List (String × Float)) :
    Completes graph.table given (attach graph given).ranks ∧
    ∃ arrangement, Arranged (attach graph given) arrangement ∧
      (∀ other, Arranged (attach graph given) other → other = arrangement) ∧
      ∀ n, (attach graph given).top n = arrangement.take (min n graph.table.symbols.length) ∧
        (∀ m ≤ n, (attach graph given).top m <+: (attach graph given).top n) ∧
        ∀ kept ∈ (attach graph given).top n, ∀ left ∈ entries (attach graph given),
          left ∉ (attach graph given).top n → Before kept left ∧ ¬ Before left kept := by
  have arranged := sorted_arranged (r := attach graph given) ordered
  refine ⟨attach_completes graph given, _, arranged, fun other => (arranged_unique · arranged), ?_⟩
  intro n
  refine ⟨top_arranged ordered arranged n, ?_, ?_⟩
  · intro m fewer
    exact List.take_prefix_take_left fewer
  · intro kept taken left member out
    have before := taken_before_left arranged taken member out
    exact ⟨before, before_asymm before⟩

/-- Two functions; the second one has no rank, and the first one is ranked by a negative zero. -/
def zeroRanked : RankedGraph :=
  attach ⟨GraphEdges.twoSymbols, []⟩ [("a", -0.0), ("ghost", 1.0)]

/-- The two zeros do not tie, so the symbol with the greater id comes first. -/
theorem zeros_are_ranked :
    Ordered GraphEdges.twoSymbols ∧
      Completes GraphEdges.twoSymbols [("a", -0.0), ("ghost", 1.0)] zeroRanked.ranks ∧
      (zeroRanked.top 2).map (·.1.id) = ["b", "a"] ∧ (zeroRanked.top 1).map (·.1.id) = ["b"] := by
  have ordered : Ordered GraphEdges.twoSymbols := ofFirsts_ordered _
  have arranged : Arranged zeroRanked (entries zeroRanked).reverse := by
    refine ⟨List.reverse_perm _, ?_⟩
    have zeros : Below (zeroRanked.rank "a") (zeroRanked.rank "b") := by
      refine .sign ?_ ?_
      · rw [Negative]
        decide +kernel
      · rw [Negative]
        decide +kernel
    exact List.pairwise_reverse.mpr (List.pairwise_pair.mpr (.rank zeros))
  obtain ⟨completes, arrangement, -, unique, top⟩ :=
    @top_begins_arrangement ⟨GraphEdges.twoSymbols, []⟩ ordered [("a", -0.0), ("ghost", 1.0)]
  have found (n : Nat) : zeroRanked.top n = (entries zeroRanked).reverse.take (min n 2) := by
    rw [unique _ arranged]
    exact (top n).1
  refine ⟨ordered, completes, ?_, ?_⟩
  · rw [found]
    decide +kernel
  · rw [found]
    decide +kernel

end SourceAtlas.RankOrder
