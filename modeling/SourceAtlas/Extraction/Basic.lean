import SourceAtlas.Extraction.Definition
import SourceAtlas.Query.Prepared

/-! What one file contributes to the graph: a symbol for the file, one for each kept definition with
all its attributes, and the relations that its text mentions. Of the attributes, a throw belongs to
every definition around it; any other qualifier belongs to the nearest one, unless a parameter or a
local function lies between. -/
namespace SourceAtlas

/-- A qualifier together with the node of the definition it belongs to. -/
structure Mark where
  owner : Nat
  qualifier : Qualifier
  node : Nat
deriving Repr, DecidableEq

namespace Reading

/-- The first of some ancestors that is kept. The search ends at a parameter, and at something that
holds locals unless a kept definition is directly around it. -/
def ownerAmong? (r : Reading) (roster : Roster) : List Nat → Option Nat
  | [] => none
  | node :: outer =>
    if roster.keeps node then some node
    else if Text.contains "parameter" (r.tree.kind node) then none
    else if r.isScope node && !outer.head?.any roster.keeps then none
    else ownerAmong? r roster outer

/-- The marks of one capture. -/
def marksOf (r : Reading) (roster : Roster) (capture : Capture) : List Mark :=
  match capture.role with
  | .qualifier .throws =>
    ((r.tree.ancestors capture.node).filter roster.keeps).map (⟨·, .throws, capture.node⟩)
  | .qualifier qualifier =>
    let owner := r.ownerAmong? roster (r.tree.ancestors capture.node)
    (owner.map (⟨·, qualifier, capture.node⟩)).toList
  | _ => []

/-- The marks of all captures in order. -/
def marks (r : Reading) (roster : Roster) (captures : List Capture) : List Mark :=
  captures.flatMap (r.marksOf roster)

/-- The attributes with one more mark. -/
def addMark (r : Reading) (a : Attributes) (mark : Mark) : Attributes :=
  match mark.qualifier with
  | .visibility => a.addVisibility (r.tree.nodeText mark.node)
  | .modifiers => a.addModifiers (r.tree.nodeText mark.node)
  | .async => { a with isAsync := true }
  | .static => { a with isStatic := true }
  | .parameters => a.addParameters (Declaration.parameterList r.tree mark.node)
  | .returnType => a.addReturnType (r.tree.nodeText mark.node)
  | .throws => { a with canThrow := true }

/-- What the marks say of the definition at a node. -/
def attributes (r : Reading) (marks : List Mark) (node : Nat) : Attributes :=
  (marks.filter (·.owner == node)).foldl r.addMark {}

/-! Relations of a file: what its text mentions, from the innermost definition around the mention or
from the file. -/

/-- The id of the innermost kept definition at or around a node, else the path of the file. -/
def enclosingId (r : Reading) (roster : Roster) (node : Nat) : String :=
  (((node :: r.tree.ancestors node).findSome? roster.find?).map (·.symbol.id)).getD r.file.path

/-- A relation to a trimmed name, unless nothing is left of it. -/
def relation? (fromId : String) (kind : RelationKind) (name : String) : Option Relation :=
  let trimmed := Text.trim name
  if trimmed.isEmpty then none else some ⟨fromId, trimmed, kind⟩

/-- The names one mention refers to, with the kind of the relation. A class attribute refers to a
selector for each of its words. -/
def mentioned (r : Reading) (mention : Mention) (node : Nat) : List (RelationKind × String) :=
  let text := Text.trim (r.tree.nodeText node)
  match mention with
  | .importSource =>
    ((r.conventions.importSpec? r.tree node).map fun spec => (.imports, spec)).toList
  | .callTarget => [(.calls, text)]
  | .inheritTarget => [(r.conventions.inheritance text, text)]
  | .implementTarget => [(.implements, text)]
  | .reference => [(.reference, text)]
  | .markupClass =>
    (Chars.words text.toList).map fun word => (.reference, String.ofList ('.' :: word))
  | .markupId => if text.isEmpty then [] else [(.reference, "#" ++ text)]

/-- The relations of one capture. -/
def relationsOf (r : Reading) (roster : Roster) (capture : Capture) : List Relation :=
  match capture.role with
  | .mention mention => (r.mentioned mention capture.node).filterMap fun (kind, name) =>
      relation? (r.enclosingId roster capture.node) kind name
  | _ => []

/-- The relations of all captures in order. -/
def relations (r : Reading) (roster : Roster) (captures : List Capture) : List Relation :=
  captures.flatMap (r.relationsOf roster)

end Reading

/-- The contribution of a file. -/
structure Extraction where
  path : String
  language : Language
  symbols : List Symbol
  relations : List Relation
deriving Repr

namespace Reading

/-- The function that a declaration is set to, else the declaration itself. -/
def functionNode (r : Reading) (node : Nat) : Nat :=
  ((r.tree.field? "value" node).filter fun value =>
    Text.contains "function" (r.tree.kind value)).getD node

/-- Where the body starts in the text of the declaration. -/
def bodyOffset? (r : Reading) (node : Nat) : Option Nat :=
  (r.tree.field? "body" (r.functionNode node)).bind fun body =>
    let first := (r.tree.row node).start
    let offset := (r.tree.row body).start
    if first ≤ offset then some (offset - first) else none

/-- The parameters by the fields of the declaration, for want of a captured list. -/
def fieldParameters (r : Reading) (node : Nat) : List Parameter :=
  let target := r.functionNode node
  match r.tree.field? "parameters" target with
  | some list => Declaration.parameterList r.tree list
  | none => ((r.tree.field? "parameter" target).map fun single =>
      ⟨r.tree.nodeText single, none⟩).toList

/-- The return type by the fields of the declaration, for want of a captured one. -/
def fieldReturnType? (r : Reading) (node : Nat) : Option String :=
  let target := r.functionNode node
  (["return_type", "result", "returns"].findSome? fun field => r.tree.field? field target).bind
    fun type => Declaration.nonEmpty? (Declaration.cleanType (r.tree.nodeText type))

/-- Parameters and return type of something callable, where no qualifier gave them. -/
def withFields (r : Reading) (node : Nat) (a : Attributes) (s : Symbol) : Symbol :=
  if s.kind.isCallable then
    { s with
      parameters := if a.parameters.isSome then s.parameters else r.fieldParameters node
      returnType := s.returnType.or (r.fieldReturnType? node) }
  else s

/-- The symbol of a definition with all its attributes. -/
def complete (r : Reading) (marks : List Mark) (d : Definition) : Symbol :=
  let a := r.attributes marks d.node
  let s := r.withFields d.node a (a.applyTo d.symbol)
  let s := { s with
    visibility := s.visibility.or (r.conventions.visibility? s.name d.isMember) }
  let s := r.conventions.decorate r.tree d.node s
  let text := r.tree.nodeText d.node
  { s with
    codeSnippet := Snippet.ofDeclaration s.kind text (r.bodyOffset? d.node)
    isPure := Purity.guess s.kind s.isAsync text }

/-- What the captures of a file contribute. -/
def extractFrom (r : Reading) (captures : List Capture) : Extraction :=
  let roster := r.roster captures
  let marks := r.marks roster captures
  let fileSymbol :=
    Symbol.ofFile r.file.path r.language.name (Text.lineCount r.file.content)
  { path := r.file.path
    language := r.language
    symbols := fileSymbol :: roster.kept.map (r.complete marks)
    relations := r.relations roster captures }

/-- What a file contributes: its captures are those of the query of its language. -/
def extract (r : Reading) : Extraction :=
  r.extractFrom (r.language.query.run r.tree)

end Reading

/-- What a file contributes, if its language is registered. -/
def SourceFile.extract? (file : SourceFile) : Option Extraction :=
  file.language?.map fun language => Reading.extract ⟨file, language⟩

end SourceAtlas
