import SourceAtlas.Graph

/-! How symbols are ranked: by the links between them, or by the history of their files. Doubles are
used when the program runs; everything that is computed from the operations listed here has a
meaning for exact fractions too. -/
namespace SourceAtlas

/-- The arithmetic that ranking needs. -/
class Scalar (α : Type) extends Add α, Sub α, Mul α, Div α where
  ofNat : Nat → α
  isBelow : α → α → Bool

namespace Scalar

variable {α : Type} [Scalar α]

/-- The sum of a list, added up from the left. -/
def sum (xs : List α) : α :=
  xs.foldl (· + ·) (ofNat 0)

/-- The distance of two numbers. -/
def distance (x y : α) : α :=
  if isBelow x y then y - x else x - y

/-- The larger of two numbers. -/
def larger (x y : α) : α :=
  if isBelow x y then y else x

/-- The nearest number between zero and one. -/
def clampUnit (x : α) : α :=
  if isBelow x (ofNat 0) then ofNat 0 else if isBelow (ofNat 1) x then ofNat 1 else x

end Scalar

instance : Scalar Float where
  ofNat := Float.ofNat
  isBelow x y := x < y

end SourceAtlas

/-! Ranks by links. Every symbol hands its rank on in equal shares to the symbols it has an edge to;
several edges between the same two symbols are one link. What symbols without links hold is spread
evenly. -/
namespace SourceAtlas.PageRank

/-- The links of a graph over the positions of its symbols: how many each has, and which lead to
each. -/
structure Links where
  size : Nat
  degree : Nat → Nat
  sources : Nat → List Nat

/-- The pairs of positions joined by an edge, each where it occurs first. -/
def pairs (g : Graph) : List (Nat × Nat) :=
  Sorted.distinct (g.edges.map fun edge =>
    (g.table.ids.idxOf edge.fromId, g.table.ids.idxOf edge.toId))

/-- The links of a graph. The latest link to a symbol comes first. -/
def Links.ofGraph (g : Graph) : Links :=
  let joined := pairs g
  let size := g.table.symbols.length
  let degrees := (Array.range size).map fun i => joined.countP (·.1 == i)
  let sources := (Array.range size).map fun i => ((joined.filter (·.2 == i)).map (·.1)).reverse
  { size
    degree := fun i => degrees.getD i 0
    sources := fun i => sources.getD i [] }

variable {α : Type} [Scalar α]

/-- What a symbol hands on along each of its links. -/
def share (links : Links) (ranks : Array α) (i : Nat) : α :=
  ranks.getD i (Scalar.ofNat 0) / Scalar.ofNat (links.degree i)

/-- What the symbols without links hold together. -/
def dangling (links : Links) (ranks : Array α) : α :=
  Scalar.sum (((List.range links.size).filter fun i => links.degree i == 0).map fun i =>
    ranks.getD i (Scalar.ofNat 0))

/-- An equal part for each symbol. -/
def uniform (links : Links) : α :=
  Scalar.ofNat 1 / Scalar.ofNat links.size

/-- One iteration: a part that is the same for all, and the damped shares that are handed to
each. -/
def step (links : Links) (damping : α) (ranks : Array α) : Array α :=
  let part : α := uniform links
  let base := (Scalar.ofNat 1 - damping) * part + damping * dangling links ranks * part
  (Array.range links.size).map fun i =>
    base + damping * Scalar.sum ((links.sources i).map (share links ranks))

/-- The largest change of a rank. -/
def change (before after : Array α) : α :=
  ((List.range before.size).map fun i =>
    Scalar.distance (before.getD i (Scalar.ofNat 0)) (after.getD i (Scalar.ofNat 0))).foldl
      Scalar.larger (Scalar.ofNat 0)

/-- Changes below a millionth end the iteration. -/
def tolerance : α :=
  Scalar.ofNat 1 / Scalar.ofNat 1000000

/-- At most `limit` iterations; the first one that changes no rank noticeably is the last. -/
def iterate (links : Links) (damping : α) : Nat → Array α → Array α
  | 0, ranks => ranks
  | limit + 1, ranks =>
    let next := step links damping ranks
    if Scalar.isBelow (change ranks next) tolerance then next else iterate links damping limit next

/-- The ranks of a graph by position. The damping is taken between zero and one, and at least one
iteration is made. -/
def ranks (g : Graph) (damping : α) (limit : Nat) : Array α :=
  let links := Links.ofGraph g
  let start := Array.replicate links.size (uniform links)
  iterate links (Scalar.clampUnit damping) (max limit 1) start

/-- The ranks of a graph by id. -/
def scores (g : Graph) (damping : α) (limit : Nat) : List (String × α) :=
  g.table.ids.zip (ranks g damping limit).toList

end SourceAtlas.PageRank

/-! Ranks by history: how often a file was changed, against the file that was changed most often. -/
namespace SourceAtlas

/-- Why there is no history. -/
inductive HistoryError where
  | unavailable
  | failed (status : Nat) (report : String)
deriving Repr, DecidableEq

/-- The text of the error. -/
def HistoryError.message : HistoryError → String
  | unavailable => "git is not available"
  | failed status report =>
    "git exited with exit status: " ++ toString status ++ ": " ++ Text.trim report

/-- What version control reports: where the project stands in the repository, and the paths changed
by the latest commits. -/
structure History where
  place : Except HistoryError String
  changes : Nat → Except HistoryError String

namespace History

/-- No version control. -/
def missing : History :=
  ⟨.error .unavailable, fun _ => .error .unavailable⟩

/-- A recorded history: one text for each commit, latest first. -/
def ofCommits (place : String) (commits : List String) : History :=
  ⟨.ok place, fun count => .ok (String.join (commits.take count))⟩

end History

namespace ChangeFrequency

/-- The changed paths: the lines that are not blank and start with where the project stands, without
that. -/
def changedPaths (place log : String) : List String :=
  let lead := Chars.trim place.toList
  let lines := (Chars.lines log.toList).map Chars.trim
  ((lines.filter fun line => !line.isEmpty).filterMap (lead.isPrefixOf? ·)).map String.ofList

/-- How often each path occurs, by path. -/
def tally (paths : List String) : List (String × Nat) :=
  (Sorted.ofTexts paths).map fun path => (path, paths.count path)

/-- How often each file was changed by the latest commits, of which at least one is asked for. -/
def counts (history : History) (limit : Nat) : Except HistoryError (List (String × Nat)) := do
  let place ← history.place
  let log ← history.changes (max limit 1)
  return tally (changedPaths place log)

/-- The most changes of a file. -/
def most (counts : List (String × Nat)) : Nat :=
  (counts.map (·.2)).foldl max 0

/-- The ranks of the changed files; everything else has none. Without history nothing has one. -/
def scores {α : Type} [Scalar α] (g : Graph) (history : History) (limit : Nat) :
    List (String × α) :=
  match counts history limit with
  | .error _ => []
  | .ok counts => (g.table.symbols.filter (·.kind == .file)).filterMap fun symbol =>
      (counts.lookup symbol.filePath).map fun count =>
        (symbol.id, Scalar.ofNat count / Scalar.ofNat (most counts))

end ChangeFrequency
end SourceAtlas
