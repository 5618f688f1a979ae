import SourceAtlas.Import.Basic
import SourceAtlas.Graph

/-! Resolving names to symbols. The imports of a project are resolved first, against its files,
because a name may refer to a symbol of an imported file. -/
namespace SourceAtlas

/-- A resolved import: the file it stands in, and the edge to the imported file. -/
structure ResolvedImport where
  file : String
  edge : Edge
deriving Repr, DecidableEq

/-- The resolved imports in order, and how many could not be resolved. -/
structure ResolvedImports where
  found : List ResolvedImport := []
  unresolved : Nat := 0
deriving Repr, DecidableEq

namespace ResolvedImports

/-- Resolves one import: its source must be a symbol in a file of a registered language, and its
target a symbol. -/
def resolveOne? (table : SymbolTable) (known : KnownFiles) (relation : Relation) :
    Option ResolvedImport := do
  let source ← table.get? relation.fromId
  let language ← Language.ofPath? source.filePath
  let target ← Import.resolve language.family source.filePath relation.toName known
  if table.contains target then some ⟨source.filePath, relation.fromId, target, .imports⟩ else none

/-- Resolves the imports among some relations. -/
def ofRelations (table : SymbolTable) (relations : List Relation) (known : KnownFiles) :
    ResolvedImports :=
  let imports := relations.filter (·.kind == .imports)
  { found := imports.filterMap (resolveOne? table known)
    unresolved := imports.countP fun relation => (resolveOne? table known relation).isNone }

/-- The edges to the imported files. -/
def edges (imports : ResolvedImports) : List Edge :=
  imports.found.map (·.edge)

/-- The files that a file imports, increasing. -/
def importedBy (imports : ResolvedImports) (file : String) : List String :=
  Sorted.ofTexts ((imports.found.filter (·.file == file)).map (·.edge.toId))

end ResolvedImports

/-! Finding the symbol a name refers to. Four places are tried in turn: the file itself, the files
it imports, the selectors of style rules, and the symbols that are known everywhere. -/
namespace Lookup

/-- The selectors of a style rule: the parts of its selector list, else of its name. -/
def selectors (rule : Symbol) : List String :=
  let parts := (Chars.splitOn ',' (rule.selector.getD rule.name).toList).map Chars.trim
  (parts.filter fun part => !part.isEmpty).map String.ofList

/-- Whether a symbol is a style rule with a selector. -/
def isRuleFor (selector : String) (symbol : Symbol) : Bool :=
  symbol.kind == .styleRule && (selectors symbol).contains selector

/-- Whether a symbol is known everywhere under a name. -/
def isGlobal (name : String) (symbol : Symbol) : Bool :=
  symbol.kind.isGlobal && symbol.name == name

/-- The symbol that a name refers to in a file. White space around the name does not count. -/
def resolve (table : SymbolTable) (imports : ResolvedImports) (name file : String) :
    Option Symbol :=
  let bare := Text.trim name
  let inFile (path : String) := table.get? (path ++ "#" ++ bare)
  if bare.isEmpty then none
  else (inFile file).or <| ((imports.importedBy file).findSome? inFile).or <|
    (table.symbols.find? (isRuleFor bare)).or (table.symbols.find? (isGlobal bare))

/-- The edge of a relation other than an import. -/
def edge? (table : SymbolTable) (imports : ResolvedImports) (relation : Relation) : Option Edge :=
  if relation.kind == .imports then none
  else (table.get? relation.fromId).bind fun source =>
    (resolve table imports relation.toName source.filePath).map fun target =>
      ⟨relation.fromId, target.id, relation.kind.edgeKind⟩

end Lookup
end SourceAtlas
