import SourceAtlas.Symbol.Basic
import SourceAtlas.SyntaxTree

/-! Structural queries over syntax trees. A pattern asks for a node and for some of its children in
order, and names the nodes to be captured. A query is a list of patterns, and every way in which
one of them fits counts. The name of a capture decides what part the node plays: whether it declares
a symbol, refers to something, qualifies a declaration, or only serves a condition of the query. -/
namespace SourceAtlas

/-- What a node refers to. -/
inductive Mention where
  | importSource
  | callTarget
  | inheritTarget
  | implementTarget
  | reference
  | markupClass
  | markupId
deriving Repr, DecidableEq

/-- What a node says about the declaration around it. -/
inductive Qualifier where
  | visibility
  | modifiers
  | async
  | static
  | parameters
  | returnType
  | throws
deriving Repr, DecidableEq

/-- The part a captured node plays. -/
inductive Role where
  | definition (kind : SymbolKind)
  | mention (mention : Mention)
  | qualifier (qualifier : Qualifier)
  | ignored
deriving Repr, DecidableEq

namespace Role

/-- Capture names of mentions. -/
def mentionNames : List (String × Mention) := [
  ("import.source", .importSource),
  ("call.target", .callTarget),
  ("inherit.target", .inheritTarget),
  ("implement.target", .implementTarget),
  ("reference.identifier", .reference),
  ("markup.class", .markupClass),
  ("markup.id", .markupId)]

/-- Capture names of qualifiers. -/
def qualifierNames : List (String × Qualifier) := [
  ("qualifier.visibility", .visibility),
  ("qualifier.modifiers", .modifiers),
  ("qualifier.async", .async),
  ("qualifier.static", .static),
  ("qualifier.parameters", .parameters),
  ("qualifier.return_type", .returnType),
  ("qualifier.throw", .throws)]

/-- The word before `.definition` in the name of a definition capture. -/
def definitionWord? (capture : String) : Option String :=
  let tail := ".definition".toList
  let cs := capture.toList
  if tail.isSuffixOf cs then some (String.ofList (cs.take (cs.length - tail.length))) else none

/-- The role a capture name gives. A name that starts with an underscore, and any other unknown
name, is ignored. -/
def ofName (capture : String) : Role :=
  if Text.startsWith "_" capture then .ignored
  else match definitionWord? capture with
    | some word => ((SymbolKind.ofCaptureWord? word).map definition).getD .ignored
    | none => match mentionNames.lookup capture, qualifierNames.lookup capture with
      | some m, _ => mention m
      | none, some q => qualifier q
      | none, none => .ignored

end Role

/-- What a pattern asks of the kind of a node. -/
inductive NodeTest where
  | oneOf (kinds : List String)
  | token (text : String)
  | anything
deriving Repr, DecidableEq

/-- A node that passes `test`, in the given field and with one of the given texts if there are such
demands, with children that fit `children` in increasing order and no child in a field of
`lacking`. -/
inductive Pattern where
  | mk (test : NodeTest) (field : Option String) (texts : Option (List String))
      (children : List Pattern) (lacking : List String) (capture : Option String)

namespace Pattern

/-- A named node of a kind with some children. -/
def named (kind : String) (children : List Pattern := []) : Pattern :=
  mk (.oneOf [kind]) none none children [] none

/-- A named node of one of several kinds. -/
def oneOf (kinds : List String) : Pattern :=
  mk (.oneOf kinds) none none [] [] none

/-- A token with this text. -/
def token (text : String) : Pattern :=
  mk (.token text) none none [] [] none

/-- Any named node. -/
def anything : Pattern :=
  mk .anything none none [] [] none

/-- The same pattern, for a child in a field. -/
def inField (field : String) : Pattern → Pattern
  | mk test _ texts children lacking capture => mk test (some field) texts children lacking capture

/-- The same pattern, for a node with one of these texts. -/
def reading (texts : List String) : Pattern → Pattern
  | mk test field _ children lacking capture => mk test field (some texts) children lacking capture

/-- The same pattern, for a node that has no child in a field. -/
def without (absent : String) : Pattern → Pattern
  | mk test field texts children lacking capture =>
    mk test field texts children (absent :: lacking) capture

/-- The same pattern, capturing its node under a name. -/
def captured (capture : String) : Pattern → Pattern
  | mk test field texts children lacking _ => mk test field texts children lacking (some capture)

mutual

/-- The names a pattern captures, in the order in which it is written: a node's own name stands
behind those of its children. -/
def captures : Pattern → List String
  | mk _ _ _ children _ capture => capturesAll children ++ capture.toList

/-- The names that several patterns capture. -/
def capturesAll : List Pattern → List String
  | [] => []
  | pattern :: rest => pattern.captures ++ capturesAll rest

end
end Pattern

/-- Whether a row passes the test. An error node is not just any named node. -/
def NodeTest.accepts (test : NodeTest) (row : SyntaxRow) : Bool :=
  match test with
  | .oneOf kinds => row.named && kinds.contains row.kind
  | .token text => !row.named && row.kind == text
  | .anything => row.named && row.kind != "ERROR"

/-- The nodes found for the names of a pattern. -/
abbrev Bindings := List (String × Nat)

/-- Each element with the elements behind it. -/
def pickEach : List α → List (α × List α)
  | [] => []
  | a :: rest => (a, rest) :: pickEach rest

mutual

/-- Every way in which a pattern fits a node. -/
def Pattern.fits (t : SyntaxTree) : Pattern → Nat → List Bindings
  | .mk test field texts children lacking capture, node =>
    if test.accepts (t.row node) && field.all (· == (t.row node).field) &&
        texts.all (·.contains (t.nodeText node)) &&
        lacking.all (fun absent => (t.fieldChildren absent node).isEmpty) then
      let own := (capture.map fun name => (name, node)).toList
      (Pattern.fitAll t children (t.children node)).map (· ++ own)
    else []

/-- Every way in which patterns fit nodes of a list, each behind the one before. -/
def Pattern.fitAll (t : SyntaxTree) : List Pattern → List Nat → List Bindings
  | [], _ => [[]]
  | pattern :: rest, nodes =>
    (pickEach nodes).flatMap fun (node, behind) =>
      (pattern.fits t node).flatMap fun first =>
        (Pattern.fitAll t rest behind).map (first ++ ·)

end

/-- The patterns of a language. -/
abbrev Query := List Pattern

/-- A captured node and the part it plays. -/
structure Capture where
  role : Role
  node : Nat
deriving Repr, DecidableEq

namespace Query

/-- The captured names in order of their first occurrence. -/
def names (query : Query) : List String :=
  (Pattern.capturesAll query).eraseDups

/-- Every captured node under its name, in no particular order. -/
def bindings (query : Query) (t : SyntaxTree) : Bindings :=
  query.flatMap fun pattern =>
    (List.range t.rows.size).flatMap fun node => (pattern.fits t node).flatten

/-- A capture comes before another if its node starts earlier, or starts there and ends later, or
has the same range and a name that occurs earlier in the query. -/
def inOrder (t : SyntaxTree) (a b : Nat × Nat) : Bool :=
  let first := t.row a.2
  let second := t.row b.2
  first.start < second.start || (first.start == second.start &&
    (second.stop < first.stop || (first.stop == second.stop && a.1 ≤ b.1)))

/-- The captures of a query in order, outer nodes before inner ones, each name and node once.
Captures that play no part are left out. -/
def run (query : Query) (t : SyntaxTree) : List Capture :=
  let names := query.names
  let found := (query.bindings t).filterMap fun (name, node) =>
    if Role.ofName name == .ignored then none else some (names.idxOf name, node)
  (found.eraseDups.mergeSort (inOrder t)).map fun (index, node) =>
    ⟨Role.ofName (names.getD index ""), node⟩

end Query
end SourceAtlas
