import Mathlib.Data.List.Count
import Mathlib.Order.Bounds.Basic
import Mathlib.Tactic.Positivity
import SourceAtlas.Proofs.RankMass
import SourceAtlas.Proofs.RankOrder
import SourceAtlas.Rank

/-! Ranks by history, said by the lines of the log alone. A file that is named by so many lines has
that number as its share of the number of the file that is named most often. The order of the lines
has no part in it, and where there is no history nothing has a rank. -/
namespace SourceAtlas.ChangeRanks
open ChangeFrequency MergedSymbols SortedLists

/-- A line that records a change of a path: it is not blank, and without the white space around it it
is the path behind where the project stands. -/
def Records (place path : String) (line : List Char) : Prop :=
  Chars.trim line ≠ [] ∧ Chars.trim line = Chars.trim place.toList ++ path.toList

instance (place path : String) : DecidablePred (Records place path) :=
  fun _ => inferInstanceAs (Decidable (_ ∧ _))

/-- The number of lines of a log that record a change of a path. -/
def changesOf (place log path : String) : Nat :=
  (Chars.lines log.toList).countP (Records place path ·)

/-- Version control answers both questions that it is asked. -/
structure Answers (history : History) (limit : Nat) (place log : String) : Prop where
  place : history.place = .ok place
  log : history.changes (max limit 1) = .ok log

/-- The exact rank of an id, zero for one without a score. -/
def rank (g : Graph) (history : History) (limit : Nat) (id : String) : ℚ :=
  ((scores g history limit).lookup id).getD 0

/-- Ranks of the symbols of a graph as the lines of a log give them, when a file has at most `most`
changes. -/
structure FollowsChanges (g : Graph) (place log : String) (most : Nat) (rank : String → ℚ) :
    Prop where
  greatest : IsGreatest (Set.range (changesOf place log)) most
  file : ∀ symbol ∈ g.table.symbols, symbol.kind = .file →
    rank symbol.id = changesOf place log symbol.filePath / most
  unchanged : ∀ symbol ∈ g.table.symbols, changesOf place log symbol.filePath = 0 →
    rank symbol.id = 0
  other : ∀ symbol ∈ g.table.symbols, symbol.kind ≠ .file → rank symbol.id = 0
  part : ∀ symbol ∈ g.table.symbols, 0 ≤ rank symbol.id ∧ rank symbol.id ≤ 1
  compared : ∀ a ∈ g.table.symbols, ∀ b ∈ g.table.symbols, a.kind = .file → b.kind = .file →
    (rank a.id ≤ rank b.id ↔ changesOf place log a.filePath ≤ changesOf place log b.filePath)

/-- A path is listed once for each line that records a change of it. -/
theorem count_changedPaths (place log path : String) :
    (changedPaths place log).count path = changesOf place log path := by
  have injective : Function.Injective String.ofList := fun _ _ => String.ofList_injective
  have text : path = String.ofList path.toList := String.ofList_toList.symm
  conv_lhs => rw [text]
  rw [changedPaths, List.count_map_of_injective _ _ injective, List.count_filterMap,
    List.countP_filter, List.countP_map]
  refine List.countP_congr fun line _ => ?_
  simp only [Function.comp_apply, Bool.and_eq_true, beq_iff_eq, Bool.not_eq_true',
    List.isPrefixOf?_eq_some_iff_append_eq, List.isEmpty_eq_false_iff]
  rw [decide_eq_true_iff, Records, and_comm, eq_comm]

theorem lookup_tally (paths : List String) (path : String) :
    (tally paths).lookup path = if 0 < paths.count path then some (paths.count path) else none := by
  rw [tally, RankOrder.lookup_listed]
  simp only [mem_ofTexts, List.count_pos_iff]

/-- The most changes of a file are the most times that a path occurs. -/
theorem most_greatest (paths : List String) :
    IsGreatest (Set.range fun path => paths.count path) (most (tally paths)) := by
  have counted : (tally paths).map (·.2) = (Sorted.ofTexts paths).map fun path => paths.count path := by
    simp [tally]
  have largest : most (tally paths) = ((tally paths).map (·.2)).max?.getD 0 := by
    rw [most, List.foldl_max, Nat.zero_max]
  rw [largest, counted]
  cases found : ((Sorted.ofTexts paths).map fun path => paths.count path).max? with
  | none =>
    rw [List.max?_eq_none_iff, List.map_eq_nil_iff] at found
    have unnamed (path : String) : paths.count path = 0 := by
      rw [List.count_eq_zero, ← mem_ofTexts, found]
      exact List.not_mem_nil
    refine ⟨⟨"", unnamed ""⟩, ?_⟩
    rintro _ ⟨path, rfl⟩
    exact (unnamed path).le
  | some top =>
    obtain ⟨member, bound⟩ := List.max?_eq_some_iff.mp found
    obtain ⟨path, -, attained⟩ := List.mem_map.mp member
    refine ⟨⟨path, attained⟩, ?_⟩
    rintro _ ⟨other, rfl⟩
    by_cases named : other ∈ paths
    · exact bound _ (List.mem_map_of_mem ((mem_ofTexts _ _).mpr named))
    · exact (List.count_eq_zero.mpr named).trans_le (Nat.zero_le _)

section
variable {g : Graph} {history : History} {limit : Nat} {place log : String}

theorem counts_answered (answers : Answers history limit place log) :
    counts history limit = .ok (tally (changedPaths place log)) := by
  rw [counts, answers.place, answers.log]
  rfl

private theorem lookup_unscored {α : Type} {symbols : List Symbol} {id : String}
    (missing : id ∉ symbols.map (·.id)) (score : Symbol → Option α) :
    (symbols.filterMap fun symbol => (score symbol).map (symbol.id, ·)).lookup id = none := by
  rw [List.lookup_eq_none_iff]
  intro entry listed
  obtain ⟨symbol, member, scored⟩ := List.mem_filterMap.mp listed
  obtain ⟨value, -, rfl⟩ := Option.map_eq_some_iff.mp scored
  rw [bne_iff_ne]
  rintro rfl
  exact missing (List.mem_map_of_mem member)

/-- Each symbol of a list with different ids has the score it is given. -/
theorem lookup_scored {α : Type} {symbols : List Symbol} (distinct : (symbols.map (·.id)).Nodup)
    (score : Symbol → Option α) (member : symbol ∈ symbols) :
    (symbols.filterMap fun symbol => (score symbol).map (symbol.id, ·)).lookup symbol.id =
      score symbol := by
  induction symbols with
  | nil => cases member
  | cons first rest ih =>
    obtain ⟨fresh, distinct⟩ := List.nodup_cons.mp distinct
    rcases List.mem_cons.mp member with rfl | later
    · cases scored : score symbol with
      | none => simp [scored, lookup_unscored fresh score]
      | some value => simp [scored]
    · have other : (symbol.id == first.id) = false := by
        rw [beq_eq_false_iff_ne]
        intro same
        exact fresh (List.mem_map.mpr ⟨symbol, later, same⟩)
      cases scored : score first with
      | none => simp [scored, ih distinct later]
      | some value => simp [scored, List.lookup_cons, other, ih distinct later]

/-- What a symbol scores: a file that was changed has its part of the most changes of a file. -/
theorem scores_at {α : Type} [Scalar α] (ordered : Ordered g.table)
    (answers : Answers history limit place log) (member : symbol ∈ g.table.symbols) :
    (scores g history limit : List (String × α)).lookup symbol.id =
      if symbol.kind = .file ∧ 0 < changesOf place log symbol.filePath then
        some (Scalar.ofNat (changesOf place log symbol.filePath) /
          Scalar.ofNat (most (tally (changedPaths place log))))
      else none := by
  have listed : (scores g history limit : List (String × α)) =
      g.table.symbols.filterMap fun symbol =>
        (if symbol.kind = .file ∧ 0 < changesOf place log symbol.filePath then
          some (Scalar.ofNat (changesOf place log symbol.filePath) /
            Scalar.ofNat (most (tally (changedPaths place log))))
        else none).map (symbol.id, ·) := by
    rw [scores, counts_answered answers]
    dsimp only
    rw [List.filterMap_filter]
    refine List.filterMap_congr fun symbol _ => ?_
    rw [lookup_tally, count_changedPaths]
    by_cases file : symbol.kind = .file
    · by_cases changed : 0 < changesOf place log symbol.filePath <;> simp [file, changed]
    · simp [file]
  rw [listed]
  exact lookup_scored (ids_nodup ordered) _ member

theorem rank_at (ordered : Ordered g.table) (answers : Answers history limit place log)
    (member : symbol ∈ g.table.symbols) :
    rank g history limit symbol.id =
      if symbol.kind = .file then
        (changesOf place log symbol.filePath : ℚ) / most (tally (changedPaths place log))
      else 0 := by
  rw [rank, scores_at ordered answers member]
  by_cases file : symbol.kind = .file
  · by_cases changed : 0 < changesOf place log symbol.filePath
    · simp [file, changed, Scalar.ofNat]
    · simp [file, Nat.eq_zero_of_not_pos changed]
  · simp [file]

theorem ranks_follow (ordered : Ordered g.table) (answers : Answers history limit place log) :
    FollowsChanges g place log (most (tally (changedPaths place log))) (rank g history limit) := by
  have greatest := most_greatest (changedPaths place log)
  simp only [count_changedPaths] at greatest
  have bound (path : String) : changesOf place log path ≤ most (tally (changedPaths place log)) :=
    greatest.2 ⟨path, rfl⟩
  have ranked {symbol : Symbol} (member : symbol ∈ g.table.symbols) :=
    rank_at ordered answers member
  refine ⟨greatest, fun symbol member file => ?_, fun symbol member none => ?_,
    fun symbol member other => ?_, fun symbol member => ?_, fun a memberA b memberB fileA fileB => ?_⟩
  · rw [ranked member, if_pos file]
  · rw [ranked member, none]
    simp
  · rw [ranked member, if_neg other]
  · rw [ranked member]
    split
    · exact ⟨by positivity, div_le_one_of_le₀ (mod_cast bound _) (Nat.cast_nonneg _)⟩
    · exact ⟨le_rfl, zero_le_one⟩
  · rw [ranked memberA, ranked memberB, if_pos fileA, if_pos fileB]
    rcases Nat.eq_zero_or_pos (most (tally (changedPaths place log))) with none | some
    · -- where nothing was changed at all, the ranks and the counts are all zero
      have zero (path : String) : changesOf place log path = 0 :=
        Nat.eq_zero_of_le_zero ((bound path).trans_eq none)
      simp [zero]
    · rw [div_le_div_iff_of_pos_right (mod_cast some), Nat.cast_le]

theorem attached_rank (g : Graph) (given : List (String × Float)) (member : symbol ∈ g.table.symbols) :
    (RankedGraph.attach g given).rank symbol.id = (given.lookup symbol.id).getD 0 := by
  have known : symbol.id ∈ g.table.ids := List.mem_map_of_mem member
  rw [RankedGraph.rank, RankedGraph.attach, RankOrder.lookup_listed, if_pos known,
    Option.getD_some]

/-- The ranks that a graph gets when the program runs are the same quotients, in doubles. -/
theorem attached_at (ordered : Ordered g.table) (answers : Answers history limit place log)
    (member : symbol ∈ g.table.symbols) :
    (RankedGraph.attach g (scores g history limit)).rank symbol.id =
      if symbol.kind = .file ∧ 0 < changesOf place log symbol.filePath then
        Float.ofNat (changesOf place log symbol.filePath) /
          Float.ofNat (most (tally (changedPaths place log)))
      else 0 := by
  rw [attached_rank g _ member, scores_at ordered answers member]
  split <;> rfl

/-- Lines in another order list the same paths as often. -/
theorem tally_perm {log log' : String}
    (same : (Chars.lines log'.toList).Perm (Chars.lines log.toList)) (place : String) :
    tally (changedPaths place log') = tally (changedPaths place log) := by
  have paths : (changedPaths place log').Perm (changedPaths place log) :=
    (((same.map _).filter _).filterMap _).map _
  rw [tally, tally, ofTexts_congr fun text => paths.mem_iff]
  exact List.map_congr_left fun path _ => by rw [paths.count_eq]

theorem scores_failed {α : Type} [Scalar α] (g : Graph)
    (failed : history.place = .error error ∨ history.changes (max limit 1) = .error error) :
    (scores g history limit : List (String × α)) = [] := by
  rw [scores, counts]
  rcases failed with failed | failed
  · rw [failed]
    rfl
  · rw [failed]
    cases history.place <;> rfl

end

/-- Ranks by history of any graph, in exact quotients. As long as version control answers, a file has
the number of lines that record a change of it, as its part of the greatest such number; everything
else has zero. The ranks of the ranked graph are these quotients in doubles, and lines in another
order give the same ranks. Where version control fails to answer, every symbol has zero. -/
theorem ranks_follow_changes {g : Graph} (ordered : Ordered g.table) (limit : Nat) :
    (∀ history place log, Answers history limit place log →
      FollowsChanges g place log (most (tally (changedPaths place log))) (rank g history limit) ∧
      (∀ symbol ∈ g.table.symbols,
        (RankedGraph.attach g (scores g history limit)).rank symbol.id =
          if symbol.kind = .file ∧ 0 < changesOf place log symbol.filePath then
            Float.ofNat (changesOf place log symbol.filePath) /
              Float.ofNat (most (tally (changedPaths place log)))
          else 0) ∧
      ∀ history' log', Answers history' limit place log' →
        (Chars.lines log'.toList).Perm (Chars.lines log.toList) →
          rank g history' limit = rank g history limit) ∧
    ∀ history error,
      (history.place = .error error ∨ history.changes (max limit 1) = .error error) →
        ∀ symbol ∈ g.table.symbols, rank g history limit symbol.id = 0 ∧
          (RankedGraph.attach g (scores g history limit)).rank symbol.id = 0 := by
  refine ⟨fun history place log answers => ⟨ranks_follow ordered answers,
    fun symbol member => attached_at ordered answers member,
    fun history' log' answers' same => ?_⟩, fun history error failed symbol member => ⟨?_, ?_⟩⟩
  · funext id
    rw [rank, rank, scores, scores, counts_answered answers', counts_answered answers,
      tally_perm same place]
  · rw [rank, scores_failed g failed]
    rfl
  · rw [attached_rank g _ member, scores_failed g failed]
    rfl

/-- A function in a file that is changed twice. -/
def someFunction : Symbol where
  id := "src/a.rs#main"
  kind := .function
  name := "main"
  filePath := "src/a.rs"
  startLine := 1
  endLine := 1

/-- Files that are changed twice, once and never, and the function. -/
def someFiles : SymbolTable :=
  .ofFirsts [.ofFile "src/a.rs" "rust" 3, .ofFile "src/b.rs" "rust" 3, .ofFile "new.rs" "rust" 1,
    someFunction]

/-- A log of changes. One of the paths lies outside of the project. -/
def someLog : String :=
  "app/src/a.rs\r\n\n app/src/b.rs\nother/c.rs\napp/src/a.rs"

/-- The file that is changed once ranks half as high as the one that is changed twice. -/
theorem half_as_many_changes :
    Ordered someFiles ∧ Answers (.ofCommits "app/\n" [someLog]) 1000 "app/\n" someLog ∧
      rank ⟨someFiles, []⟩ (.ofCommits "app/\n" [someLog]) 1000 "src/a.rs" = 1 ∧
      rank ⟨someFiles, []⟩ (.ofCommits "app/\n" [someLog]) 1000 "src/b.rs" = 1 / 2 ∧
      rank ⟨someFiles, []⟩ (.ofCommits "app/\n" [someLog]) 1000 "new.rs" = 0 ∧
      rank ⟨someFiles, []⟩ (.ofCommits "app/\n" [someLog]) 1000 "src/a.rs#main" = 0 := by
  have ordered : Ordered someFiles := ofFirsts_ordered _
  have answers : Answers (.ofCommits "app/\n" [someLog]) 1000 "app/\n" someLog :=
    ⟨rfl, by decide +kernel⟩
  obtain ⟨follows, -⟩ := (@ranks_follow_changes ⟨someFiles, []⟩ ordered 1000).1 _ _ _ answers
  have twice := follows.file (.ofFile "src/a.rs" "rust" 3) (by decide +kernel) rfl
  have once := follows.file (.ofFile "src/b.rs" "rust" 3) (by decide +kernel) rfl
  have never := follows.unchanged (.ofFile "new.rs" "rust" 1) (by decide +kernel)
    (by decide +kernel)
  have inside := follows.other someFunction (by decide +kernel) (by decide)
  exact ⟨ordered, answers, twice.trans (by decide +kernel), once.trans (by decide +kernel), never,
    inside⟩

end SourceAtlas.ChangeRanks
