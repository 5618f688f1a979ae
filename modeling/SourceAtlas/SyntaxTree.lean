import SourceAtlas.Language

/-! Syntax trees as tables of nodes in preorder, and the source files they belong to. A node is
named by its row. Its parent is the nearest earlier row of smaller depth, and its descendants are
the rows behind it of greater depth, so the whole shape of the tree is in the column of depths. -/
namespace SourceAtlas

/-- One node of a syntax tree. The byte range refers to the source text. A field may be redirected
to a given row, or to none, instead of the first child with that field. -/
structure SyntaxRow where
  depth : Nat
  kind : String
  named : Bool
  field : String
  start : Nat
  stop : Nat
  redirects : List (String × Option Nat) := []
deriving Repr

/-- The syntax tree of a source text. -/
structure SyntaxTree where
  text : String
  rows : Array SyntaxRow
deriving Repr

namespace SyntaxTree

/-- Stands for a row that does not exist. -/
def blankRow : SyntaxRow :=
  { depth := 0, kind := "", named := false, field := "", start := 0, stop := 0 }

def row (t : SyntaxTree) (node : Nat) : SyntaxRow :=
  t.rows[node]?.getD blankRow

def kind (t : SyntaxTree) (node : Nat) : String :=
  (t.row node).kind

def depth (t : SyntaxTree) (node : Nat) : Nat :=
  (t.row node).depth

/-- The rows before `node` that enclose something of depth `depth`, innermost first. -/
def enclosing (t : SyntaxTree) : Nat → Nat → List Nat
  | 0, _ => []
  | node + 1, depth =>
    if t.depth node < depth then node :: enclosing t node (t.depth node)
    else enclosing t node depth

/-- The proper ancestors of a node, innermost first. -/
def ancestors (t : SyntaxTree) (node : Nat) : List Nat :=
  t.enclosing node (t.depth node)

/-- The parent of a node. -/
def parent? (t : SyntaxTree) (node : Nat) : Option Nat :=
  (t.ancestors node).head?

/-- The rows from `node` on, at most `count` of them, as long as they are deeper than `depth`. -/
def deeper (t : SyntaxTree) (depth : Nat) : Nat → Nat → List Nat
  | 0, _ => []
  | count + 1, node =>
    if depth < t.depth node then node :: deeper t depth count (node + 1) else []

/-- The rows behind `node` in order, as long as they are deeper. -/
def descendants (t : SyntaxTree) (node : Nat) : List Nat :=
  t.deeper (t.depth node) (t.rows.size - node - 1) (node + 1)

/-- The children of a node in order. -/
def children (t : SyntaxTree) (node : Nat) : List Nat :=
  (t.descendants node).filter fun other => t.depth other == t.depth node + 1

/-- The children that are not mere tokens. -/
def namedChildren (t : SyntaxTree) (node : Nat) : List Nat :=
  (t.children node).filter fun child => (t.row child).named

/-- The children in a field. -/
def fieldChildren (t : SyntaxTree) (field : String) (node : Nat) : List Nat :=
  (t.children node).filter fun child => (t.row child).field == field

/-- The node in a field: where the row redirects the field to, else the first child in it. -/
def field? (t : SyntaxTree) (field : String) (node : Nat) : Option Nat :=
  match (t.row node).redirects.lookup field with
  | some target => target
  | none => (t.fieldChildren field node).head?

/-- The first child of a kind that is not a mere token. -/
def namedChild? (t : SyntaxTree) (accepts : String → Bool) (node : Nat) : Option Nat :=
  (t.namedChildren node).find? fun child => accepts (t.kind child)

/-- The first descendant of a kind in preorder, reached through named nodes only. -/
def namedDescendant? (t : SyntaxTree) (kind : String) (node : Nat) : Option Nat :=
  (t.descendants node).find? fun other =>
    t.kind other == kind && (t.row other).named &&
      ((t.ancestors other).takeWhile (· != node)).all fun between => (t.row between).named

/-- A node and what is reached from it by `next`, again and again, as long as that leads further
down the table. -/
def chain (t : SyntaxTree) (next : Nat → Option Nat) (node : Nat) : List Nat :=
  match next node with
  | none => [node]
  | some lower =>
    if node < lower ∧ lower < t.rows.size then node :: chain t next lower else [node]
termination_by t.rows.size - node

/-- The text between two byte offsets, empty unless both stand at the edge of a character. -/
def slice (text : String) (start stop : Nat) : String :=
  let first : String.Pos.Raw := ⟨start⟩
  let last : String.Pos.Raw := ⟨stop⟩
  if start ≤ stop && first.isValid text && last.isValid text then first.extract text last else ""

/-- The source text of a node. -/
def nodeText (t : SyntaxTree) (node : Nat) : String :=
  let row := t.row node
  slice t.text row.start row.stop

/-- The line an offset stands on, counting from one: the line feeds before it, and one. -/
def lineAt (t : SyntaxTree) (offset : Nat) : Nat :=
  (t.text.toList.foldl (fun (position, line) c =>
    (position + c.utf8Size, if c == '\n' && position < offset then line + 1 else line)) (0, 1)).2

/-- The line a node starts on. -/
def startLine (t : SyntaxTree) (node : Nat) : Nat :=
  t.lineAt (t.row node).start

/-- The line a node ends on. -/
def endLine (t : SyntaxTree) (node : Nat) : Nat :=
  t.lineAt (t.row node).stop

end SyntaxTree

/-! Source files with their syntax trees. Parsing is not done here: a file comes with the rows of
its tree. -/

/-- A file of the project. The rows are those of its syntax tree, and none when no language is
registered for it. -/
structure SourceFile where
  path : String
  content : String
  rows : Array SyntaxRow := #[]
deriving Repr

/-- The language of a file, by its path. -/
def SourceFile.language? (file : SourceFile) : Option Language :=
  Language.ofPath? file.path

/-- The syntax tree of a file. -/
def SourceFile.tree (file : SourceFile) : SyntaxTree :=
  ⟨file.content, file.rows⟩

end SourceAtlas
