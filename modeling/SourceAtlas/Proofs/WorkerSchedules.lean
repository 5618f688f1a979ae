import Mathlib.Data.List.Perm.Basic
import SourceAtlas.Assembly

/-! Work on files by several workers. A pool spawns one task for each file, workers take tasks in any
order and send the outcomes tagged with the positions of their files, and messages arrive in any
order. Sorting by position undoes all of it: every complete run gives the outcomes of working on the
files in turn, and every run can be completed. What the outcomes are does not matter: extraction may
as well have failed on some of the files. -/
namespace SourceAtlas.WorkerSchedules
open Assembly

/-- The message of a task: the position of its file and what became of the file. -/
def report (work : SourceFile → Outcome) (task : SourceFile × Nat) : Nat × Outcome :=
  (task.2, work task.1)

/-- A pool of workers at one moment: the tasks not yet spawned, those waiting for a worker, those
being worked on, the messages in flight, and the messages received so far. -/
structure Pool where
  unspawned : List (SourceFile × Nat)
  waiting : List (SourceFile × Nat)
  running : List (SourceFile × Nat)
  sent : List (Nat × Outcome)
  received : List (Nat × Outcome)

namespace Pool

/-- Before anything is spawned. -/
def start (files : List SourceFile) : Pool :=
  ⟨files.zipIdx, [], [], [], []⟩

/-- Every task has run and every message has been received. -/
def Complete (pool : Pool) : Prop :=
  pool.unspawned = [] ∧ pool.waiting = [] ∧ pool.running = [] ∧ pool.sent = []

/-- How many steps the pool still has to take. -/
def remaining (pool : Pool) : Nat :=
  4 * pool.unspawned.length + 3 * pool.waiting.length + 2 * pool.running.length + pool.sent.length

/-- All messages, those still to be sent included. -/
def messages (work : SourceFile → Outcome) (pool : Pool) : List (Nat × Outcome) :=
  pool.received ++ pool.sent ++ (pool.running ++ pool.waiting ++ pool.unspawned).map (report work)

end Pool

/-- One step of a pool. Any waiting task may be taken while a worker is free, any task that is being
worked on may finish next, and any message in flight may arrive next. -/
inductive Step (work : SourceFile → Outcome) (workers : Nat) : Pool → Pool → Prop where
  | spawn : Step work workers ⟨task :: unspawned, waiting, running, sent, received⟩
      ⟨unspawned, waiting ++ [task], running, sent, received⟩
  | take (before : List (SourceFile × Nat)) (free : running.length < max workers 1) :
      Step work workers ⟨unspawned, before ++ task :: after, running, sent, received⟩
        ⟨unspawned, before ++ after, running ++ [task], sent, received⟩
  | finish (before : List (SourceFile × Nat)) :
      Step work workers ⟨unspawned, waiting, before ++ task :: after, sent, received⟩
        ⟨unspawned, waiting, before ++ after, sent ++ [report work task], received⟩
  | receive (before : List (Nat × Outcome)) :
      Step work workers ⟨unspawned, waiting, running, before ++ message :: after, received⟩
        ⟨unspawned, waiting, running, before ++ after, received ++ [message]⟩

/-- The pools that work on some files can lead to. -/
inductive Reachable (work : SourceFile → Outcome) (files : List SourceFile) (workers : Nat) :
    Pool → Prop where
  | start : Reachable work files workers (Pool.start files)
  | next (reached : Reachable work files workers pool) (step : Step work workers pool after) :
      Reachable work files workers after

section
variable {work : SourceFile → Outcome} {files : List SourceFile}

/-- No step loses a message, sends one twice or changes one. -/
theorem step_messages (step : Step work workers pool after) :
    (after.messages work).Perm (pool.messages work) := by
  cases step with
  | spawn =>
    simp only [Pool.messages, List.append_assoc, List.singleton_append]
    exact List.Perm.refl _
  | take before free =>
    simp only [Pool.messages, List.map_append, List.map_cons, List.append_assoc, List.cons_append,
      List.nil_append]
    refine List.Perm.append_left _ (List.Perm.append_left _ (List.Perm.append_left _ ?_))
    exact List.perm_middle.symm
  | finish before =>
    simp only [Pool.messages, List.map_append, List.map_cons, List.append_assoc, List.cons_append,
      List.nil_append]
    refine List.Perm.append_left _ (List.Perm.append_left _ ?_)
    exact List.perm_middle.symm
  | receive before =>
    simp only [Pool.messages, List.append_assoc, List.cons_append, List.nil_append]
    refine List.Perm.append_left _ ?_
    exact List.perm_middle.symm

theorem step_remaining (step : Step work workers pool after) :
    after.remaining < pool.remaining := by
  cases step <;> simp only [Pool.remaining, List.length_append, List.length_cons, List.length_nil]
    <;> omega

/-- Whatever the schedule was so far, exactly the messages of all files are accounted for. -/
theorem reachable_messages (reached : Reachable work files workers pool) :
    (pool.messages work).Perm (files.zipIdx.map (report work)) := by
  induction reached with
  | start => exact List.Perm.refl _
  | next _ step ih => exact (step_messages step).trans ih

theorem complete_received (reached : Reachable work files workers pool)
    (complete : pool.Complete) : pool.received.Perm (files.zipIdx.map (report work)) := by
  obtain ⟨unspawned, waiting, running, sent⟩ := complete
  simpa [Pool.messages, unspawned, waiting, running, sent] using reachable_messages reached

/-- A pool that is not done can go on: no schedule gets stuck. -/
theorem pool_progress (work : SourceFile → Outcome) (workers : Nat) (pool : Pool) :
    pool.Complete ∨ ∃ after, Step work workers pool after := by
  obtain ⟨unspawned, waiting, running, sent, received⟩ := pool
  cases sent with
  | cons message sent => exact .inr ⟨_, .receive []⟩
  | nil =>
    cases running with
    | cons task running => exact .inr ⟨_, .finish []⟩
    | nil =>
      cases waiting with
      | cons task waiting => exact .inr ⟨_, .take [] (Nat.le_max_right workers 1)⟩
      | nil =>
        cases unspawned with
        | cons task unspawned => exact .inr ⟨_, .spawn⟩
        | nil => exact .inl ⟨rfl, rfl, rfl, rfl⟩

/-- Every run can be carried to its end. -/
theorem reachable_completes (reached : Reachable work files workers pool) :
    ∃ done, Reachable work files workers done ∧ done.Complete := by
  induction size : pool.remaining using Nat.strongRecOn generalizing pool with
  | ind size ih =>
    rcases pool_progress work workers pool with complete | ⟨after, step⟩
    · exact ⟨pool, reached, complete⟩
    · exact ih after.remaining (size ▸ step_remaining step) (reached.next step) rfl

private theorem reports_ordered (work : SourceFile → Outcome) (files : List SourceFile) :
    (files.zipIdx.map (report work)).Pairwise fun a b => decide (a.1 ≤ b.1) = true := by
  have positions : (files.zipIdx.map Prod.snd).Pairwise (· < ·) := by
    rw [List.zipIdx_map_snd]
    exact List.pairwise_lt_range'
  refine List.pairwise_map.mpr ((List.pairwise_map.mp positions).imp ?_)
  intro a b less
  exact decide_eq_true (Nat.le_of_lt less)

private theorem report_position_injective (first : a ∈ files.zipIdx.map (report work))
    (second : b ∈ files.zipIdx.map (report work)) (same : a.1 = b.1) : a = b := by
  obtain ⟨⟨file, i⟩, memberA, rfl⟩ := List.mem_map.mp first
  obtain ⟨⟨file', j⟩, memberB, rfl⟩ := List.mem_map.mp second
  obtain rfl : i = j := same
  have foundA := List.mem_zipIdx_iff_getElem?.mp memberA
  have foundB := List.mem_zipIdx_iff_getElem?.mp memberB
  obtain rfl : file = file' := Option.some.inj (foundA.symm.trans foundB)
  rfl

/-- Messages that arrived in any order are put back into the order of the files. -/
theorem inOrder_of_perm (perm : arrived.Perm (files.zipIdx.map (report work))) :
    inOrder arrived = files.map work := by
  have sorted : arrived.mergeSort (fun a b => a.1 ≤ b.1) = files.zipIdx.map (report work) := by
    have arrange := (List.mergeSort_perm arrived fun a b => decide (a.1 ≤ b.1)).trans perm
    refine List.Perm.eq_of_pairwise ?_ (List.pairwise_mergeSort ?_ ?_ arrived)
      (reports_ordered work files) arrange
    · intro a b memberA memberB le ge
      exact report_position_injective (arrange.mem_iff.mp memberA) memberB
        (Nat.le_antisymm (of_decide_eq_true le) (of_decide_eq_true ge))
    · intro a b c first second
      exact decide_eq_true (Nat.le_trans (of_decide_eq_true first) (of_decide_eq_true second))
    · intro a b
      simpa using Nat.le_total a.1 b.1
  calc inOrder arrived = (files.zipIdx.map (report work)).map (·.2) := by rw [inOrder, sorted]
    _ = (files.zipIdx.map Prod.fst).map work := by rw [List.map_map, List.map_map]; rfl
    _ = files.map work := by rw [List.zipIdx_map_fst]

/-- Whichever way the messages are shuffled, the outcomes are those of one worker. -/
theorem outcomes_in_turn (workers : Nat)
    (shuffled : (schedule (files.zipIdx.map (report work))).Perm
      (files.zipIdx.map (report work))) :
    outcomes work files workers schedule = files.map work := by
  unfold outcomes
  split
  · rfl
  · exact inOrder_of_perm shuffled

end

/-- The number of workers does not matter. -/
theorem runWith_in_turn (work : SourceFile → Outcome) (files : List SourceFile) (workers : Nat) :
    runWith work files workers = ofOutcomes files (files.map work) := by
  rw [runWith, outcomes_in_turn workers (List.Perm.refl _)]

/-- Every schedule of every number of workers assembles what one worker assembles: the symbols, the
edges in their order and the books, whatever the outcomes of the files are. With those of extraction
that is `run`. There are complete schedules, and no schedule gets stuck or goes on forever. -/
theorem schedules_agree (work : SourceFile → Outcome) (files : List SourceFile) (workers : Nat) :
    (∃ pool, Reachable work files workers pool ∧ pool.Complete) ∧
    (∀ pool, Reachable work files workers pool → pool.Complete →
      ofOutcomes files (outcomes work files workers fun _ => pool.received) =
        runWith work files 1) ∧
    (∀ pool, Reachable work files workers pool →
      pool.Complete ∨ ∃ after, Step work workers pool after) ∧
    ∀ pool after, Step work workers pool after → after.remaining < pool.remaining := by
  refine ⟨reachable_completes .start, ?_, fun pool _ => pool_progress work workers pool,
    fun _ _ => step_remaining⟩
  intro pool reached complete
  rw [outcomes_in_turn workers (complete_received reached complete), runWith_in_turn]

end SourceAtlas.WorkerSchedules
