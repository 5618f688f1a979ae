import SourceAtlas.Blake3
import SourceAtlas.Symbol.Json

/-! How one symbol depends on another: by name while a file is read, and by id once the name is
resolved. The resolved dependencies are the edges of a graph. -/
namespace SourceAtlas

/-- How the text refers to something. -/
inductive RelationKind where
  | imports
  | calls
  | inherits
  | implements
  | reference
deriving Repr, DecidableEq

/-- How two symbols of the graph are joined. -/
inductive EdgeKind where
  | imports
  | calls
  | inherits
  | implements
deriving Repr, DecidableEq

namespace EdgeKind

def all : List EdgeKind :=
  [imports, calls, inherits, implements]

/-- The written name. -/
def name : EdgeKind → String
  | imports => "imports"
  | calls => "calls"
  | inherits => "inherits"
  | implements => "implements"

/-- The kind with a written name. -/
def ofName? (text : String) : Option EdgeKind :=
  all.find? (·.name == text)

/-- The place in the order of kinds. -/
def rank : EdgeKind → Nat
  | imports => 0
  | calls => 1
  | inherits => 2
  | implements => 3

end EdgeKind

namespace RelationKind

def all : List RelationKind :=
  [imports, calls, inherits, implements, reference]

/-- The edge a resolved relation becomes. A reference counts as a call. -/
def edgeKind : RelationKind → EdgeKind
  | imports => .imports
  | calls | reference => .calls
  | inherits => .inherits
  | implements => .implements

/-- The written name. -/
def name : RelationKind → String
  | reference => "reference"
  | kind => kind.edgeKind.name

/-- The kind with a written name. -/
def ofName? (text : String) : Option RelationKind :=
  all.find? (·.name == text)

end RelationKind

/-- A reference found in the text, from a known symbol to a name. -/
structure Relation where
  fromId : String
  toName : String
  kind : RelationKind
deriving Repr, DecidableEq

/-- A resolved dependency. -/
structure Edge where
  fromId : String
  toId : String
  kind : EdgeKind
deriving Repr, DecidableEq

/-- Edges in order: by source, then by target, then by kind. -/
def Edge.before (a b : Edge) : Bool :=
  if a.fromId = b.fromId then
    if a.toId = b.toId then a.kind.rank ≤ b.kind.rank else decide (a.toId < b.toId)
  else decide (a.fromId < b.fromId)

/-! The graph of a project. Building it enforces what every graph satisfies: the ends of an edge are
two different symbols of the graph, and no edge occurs twice. -/

/-- Symbols and the edges between them. -/
structure Graph where
  table : SymbolTable := {}
  edges : List Edge := []
deriving Repr, DecidableEq

namespace Graph

/-- Whether an edge joins two different symbols of a table. -/
def joins (table : SymbolTable) (edge : Edge) : Bool :=
  edge.fromId != edge.toId && table.contains edge.fromId && table.contains edge.toId

/-- The graph with the edges that join two different symbols, each where it occurs first. -/
def build (table : SymbolTable) (edges : List Edge) : Graph :=
  ⟨table, Sorted.distinct (edges.filter (joins table))⟩

/-- The symbol with an id. -/
def symbol? (g : Graph) (id : String) : Option Symbol :=
  g.table.get? id

/-- The edges that start at an id. -/
def outgoing (g : Graph) (id : String) : List Edge :=
  g.edges.filter (·.fromId == id)

/-- The edges that end at an id. -/
def incoming (g : Graph) (id : String) : List Edge :=
  g.edges.filter (·.toId == id)

def isEmpty (g : Graph) : Bool :=
  g.table.symbols.isEmpty

/-! The fingerprint of a graph. Each symbol and each edge is a line; the symbols come by id and the
edges in their own order, so the order in which they were found does not matter. -/

/-- The line of a symbol: id and kind, divided by a null character. -/
def symbolLine (symbol : Symbol) : List Char :=
  symbol.id.toList ++ ['\x00'] ++ symbol.kind.name.toList ++ ['\n']

/-- The line of an edge: source, target and kind, divided by null characters. -/
def edgeLine (edge : Edge) : List Char :=
  edge.fromId.toList ++ ['\x00'] ++ edge.toId.toList ++ ['\x00'] ++ edge.kind.name.toList ++ ['\n']

/-- The edges in order. -/
def sortedEdges (g : Graph) : List Edge :=
  g.edges.mergeSort Edge.before

/-- The text of a graph that is hashed. -/
def digestText (g : Graph) : List Char :=
  g.table.symbols.flatMap symbolLine ++ g.sortedEdges.flatMap edgeLine

/-- The hash of the symbols and edges, in hexadecimal. -/
def digest (g : Graph) : String :=
  Blake3.hexDigest (String.ofList g.digestText).toUTF8

end Graph

/-! A graph with a rank for each of its symbols. -/

/-- A graph with ranks for exactly its symbols, in the order of their ids. -/
structure RankedGraph where
  graph : Graph
  ranks : List (String × Float)

namespace RankedGraph

/-- Attaches ranks. A symbol without one gets zero, and ranks of other ids are dropped. -/
def attach (graph : Graph) (given : List (String × Float)) : RankedGraph :=
  ⟨graph, graph.table.ids.map fun id => (id, (given.lookup id).getD 0)⟩

/-- The rank of an id, zero for one that is not in the graph. -/
def rank (r : RankedGraph) (id : String) : Float :=
  (r.ranks.lookup id).getD 0

/-- The place of a double in the total order of doubles, in which a negative zero comes before
zero. -/
def place (x : Float) : Int :=
  let bits := x.toBits.toNat
  let half := Nat.pow 2 63
  if bits < half then bits else (half : Int) - bits - 1

/-- Whether an entry comes before another: the higher rank first, then the smaller id. -/
def precedes (a b : Symbol × Float) : Bool :=
  place b.2 < place a.2 || (place a.2 == place b.2 && decide (a.1.id ≤ b.1.id))

/-- The `count` symbols with the highest ranks. -/
def top (r : RankedGraph) (count : Nat) : List (Symbol × Float) :=
  let entries := r.graph.table.symbols.map fun symbol => (symbol, r.rank symbol.id)
  (entries.mergeSort precedes).take count

end RankedGraph
end SourceAtlas
