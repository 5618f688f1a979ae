import SourceAtlas.Conventions
import SourceAtlas.Query.Basic
import SourceAtlas.SyntaxTree

/-! The definitions of a file. Captures come outer nodes first, so a container is on the roster
before its members are judged. A definition is kept under the first id it gets; a later one with
the same id is a repeat, which adds no symbol. -/
namespace SourceAtlas

/-- A file that is read as a language. -/
structure Reading where
  file : SourceFile
  language : Language

namespace Reading

def tree (r : Reading) : SyntaxTree :=
  r.file.tree

def conventions (r : Reading) : Conventions :=
  r.language.family.conventions

/-- Whether a node holds locals. -/
def isScope (r : Reading) (node : Nat) : Bool :=
  r.conventions.scopes.contains (r.tree.kind node)

/-- Whether a node stands inside something that holds locals. -/
def isLocal (r : Reading) (node : Nat) : Bool :=
  (r.tree.ancestors node).any r.isScope

end Reading

/-- A kept definition: its node, its symbol, whether it has an owner, and what qualifies its own
members if it may have some. -/
structure Definition where
  node : Nat
  symbol : Symbol
  isMember : Bool
  memberPath : Option String
deriving Repr, DecidableEq

/-- A definition whose id was already taken. Members still join it if its kind may be split. -/
structure Repeat where
  node : Nat
  id : String
  memberPath : Option String
deriving Repr, DecidableEq

/-- The definitions found so far, in order. -/
structure Roster where
  kept : List Definition := []
  repeats : List Repeat := []
deriving Repr, DecidableEq

namespace Roster

/-- The definition kept for a node. -/
def find? (roster : Roster) (node : Nat) : Option Definition :=
  roster.kept.find? (·.node == node)

/-- Whether a definition was kept for a node. -/
def keeps (roster : Roster) (node : Nat) : Bool :=
  (roster.find? node).isSome

/-- What qualifies the members inside a node. Of several repeats the latest decides. -/
def memberPath? (roster : Roster) (node : Nat) : Option String :=
  ((roster.find? node).bind (·.memberPath)).or
    ((roster.repeats.reverse.filter (·.node == node)).findSome? (·.memberPath))

/-- Whether the members of a kept definition are already qualified this way. -/
def isTaken (roster : Roster) (path : String) : Bool :=
  roster.kept.any (·.memberPath == some path)

/-- Whether a kept definition has this id. -/
def hasId (roster : Roster) (id : String) : Bool :=
  roster.kept.any (·.symbol.id == id)

end Roster

namespace Reading

/-- What qualifies a node by the nearest container around it. -/
def enclosingPath? (r : Reading) (roster : Roster) (node : Nat) : Option String :=
  (r.tree.ancestors node).findSome? roster.memberPath?

/-- Whether the node around this one is a kept template of the same name, which already stands for
what it declares. -/
def isWrapped (r : Reading) (roster : Roster) (node : Nat) (name : String) : Bool :=
  ((r.tree.parent? node).bind roster.find?).any fun outer =>
    outer.symbol.kind == .template && outer.symbol.name == name

/-- The name of a declared symbol; what has none is a default. -/
def nameOf (r : Reading) (kind : SymbolKind) (node : Nat) : String :=
  (r.conventions.symbolName? r.tree kind node).getD "default"

/-- Functions and variables of a container are its methods and fields, and a method needs one. -/
def adjustKind (kind : SymbolKind) (isMember : Bool) : SymbolKind :=
  match kind, isMember with
  | .function, true => .method
  | .binding, true => .field
  | .method, false => .function
  | kind, _ => kind

/-- Whether a captured definition is passed over: kept already, not a definition by convention, or
local to a function. -/
def passesOver (r : Reading) (roster : Roster) (kind : SymbolKind) (node : Nat) : Bool :=
  roster.keeps node || r.conventions.skips r.tree kind node || r.isLocal node

/-- The candidate for a captured definition, before its id is compared with those taken. A
container whose members would be qualified like those of another one gets its line added, unless
its kind may be split. -/
def candidate (r : Reading) (roster : Roster) (captured : SymbolKind) (node : Nat) : Definition :=
  let name := r.nameOf captured node
  let owner := (r.enclosingPath? roster node).or (r.conventions.detachedOwner? r.tree node)
  let kind := r.conventions.refine r.tree (adjustKind captured owner.isSome) node name owner.isSome
  let line := r.tree.startLine node
  let plain := match owner with
    | some path => path ++ "." ++ name
    | none => name
  let members := r.conventions.memberPath r.tree kind node plain
  let clashes := kind.qualifiesMembers && roster.isTaken members && !r.conventions.merges kind
  let atLine (text : String) := if clashes then text ++ ":" ++ toString line else text
  let own := if kind == .markupElement then name ++ ":" ++ toString line else atLine plain
  { node
    symbol := {
      id := r.file.path ++ "#" ++ own
      kind, name
      filePath := r.file.path
      startLine := line
      endLine := max line (r.tree.endLine node)
      language := some r.language.name }
    isMember := owner.isSome
    memberPath := if kind.qualifiesMembers then some (atLine members) else none }

/-- The roster after one captured definition. -/
def define (r : Reading) (roster : Roster) (kind : SymbolKind) (node : Nat) : Roster :=
  if r.passesOver roster kind node || r.isWrapped roster node (r.nameOf kind node) then roster
  else
    let found := r.candidate roster kind node
    if roster.hasId found.symbol.id then
      let joins := if r.conventions.merges found.symbol.kind then found.memberPath else none
      { roster with repeats := roster.repeats ++ [⟨node, found.symbol.id, joins⟩] }
    else { roster with kept := roster.kept ++ [found] }

/-- The definitions among the captures. -/
def roster (r : Reading) (captures : List Capture) : Roster :=
  captures.foldl (fun roster capture =>
    match capture.role with
    | .definition kind => r.define roster kind capture.node
    | _ => roster) {}

end Reading
end SourceAtlas
