import SourceAtlas.Symbol.Basic
import SourceAtlas.SyntaxTree

/-! What the syntax tree says about a declaration: where its name stands, what its parameters are,
and which qualifiers it has. -/
namespace SourceAtlas.Declaration

/-- Kinds of nodes that are a name. -/
def nameKinds : List String :=
  ["identifier", "field_identifier", "type_identifier", "destructor_name", "operator_name",
    "property_identifier"]

/-- One step down a declarator: into the name of a qualified one, else into the inner declarator,
else into the name. -/
def innerDeclarator? (t : SyntaxTree) (node : Nat) : Option Nat :=
  if nameKinds.contains (t.kind node) then none
  else if t.kind node == "qualified_identifier" then t.field? "name" node
  else (t.field? "declarator" node).or (t.field? "name" node)

/-- The name at the end of a chain of declarators such as pointers, arrays and parameter lists. -/
def declaratorName? (t : SyntaxTree) (node : Nat) : Option Nat :=
  let last := (t.chain (innerDeclarator? t) node).getLast?.getD node
  if nameKinds.contains (t.kind last) then some last
  else if t.kind last == "qualified_identifier" then none
  else t.namedChild? (· == "identifier") last

/-- Whether a chain of declarators has one of a kind. -/
def hasDeclarator (t : SyntaxTree) (kind : String) (node : Nat) : Bool :=
  (t.chain (t.field? "declarator") node).any fun inner => t.kind inner == kind

/-- The node that names a declaration: its name, the name its declarator ends in, or its
property. -/
def nameNode? (t : SyntaxTree) (node : Nat) : Option Nat :=
  match t.field? "name" node with
  | some name => some name
  | none => match t.field? "declarator" node with
    | some declarator => declaratorName? t declarator
    | none => t.field? "property" node

/-- A text without the type arguments behind it. -/
def withoutGenerics (text : String) : String :=
  String.ofList (Chars.trim (Chars.before (· == '<') text.toList))

/-- A text, unless it is empty. -/
def nonEmpty? (text : String) : Option String :=
  if text.isEmpty then none else some text

/-! Parameter lists. A parameter may have several names, a default value, a type before or behind
its name, or be an object pattern that binds one name for each of its properties. -/

/-- A type without the sign that introduces it, on one line. -/
def cleanType (text : String) : String :=
  let trimmed := Chars.trim text.toList
  let behindArrow := (['-', '>'].isPrefixOf? trimmed).getD trimmed
  let behindColon := ([':'].isPrefixOf? behindArrow).getD behindArrow
  String.ofList (Chars.collapse behindColon)

/-- A parameter, unless its name is empty or stands for the receiver. Leading dollar signs do not
belong to the name. -/
def parameter? (name : String) (typeName : Option String) : Option Parameter :=
  let bare := String.ofList ((Chars.trim name.toList).dropWhile (· == '$'))
  if bare.isEmpty || bare == "self" || bare == "this" then none else some ⟨bare, typeName⟩

/-- The parameters an object pattern binds. -/
def destructured (t : SyntaxTree) (pattern : Nat) : List Parameter :=
  (t.namedChildren pattern).filterMap fun property =>
    let name := match t.kind property with
      | "shorthand_property_identifier_pattern" | "rest_pattern" => some property
      | "pair_pattern" => t.field? "key" property
      | "object_assignment_pattern" => t.field? "left" property
      | _ => none
    name.bind fun node => parameter? (t.nodeText node) none

/-- The name of a parameter that has no field for it. -/
def bareParameterName (t : SyntaxTree) (param : Nat) : String :=
  let kind := t.kind param
  if Text.contains "identifier" kind || kind == "variable_name" then t.nodeText param
  else if (t.field? "type" param).isNone && (t.namedChildren param).isEmpty then t.nodeText param
  else
    let names := ["identifier", "variable_declarator", "variable_name"]
    match t.namedChild? names.contains param with
    | some child =>
      if t.kind child == "variable_declarator" then
        ((t.field? "name" child).map t.nodeText).getD ""
      else t.nodeText child
    | none => if (t.field? "type" param).isSome then "" else Text.collapse (t.nodeText param)

/-- The name of a parameter whose name, pattern or declarator is `target`. -/
def targetName (t : SyntaxTree) (target : Nat) : String :=
  match declaratorName? t target with
  | some name => t.nodeText name
  | none => Text.collapse (t.nodeText target)

/-- The parameters that one item of a parameter list declares. -/
def parametersOf (t : SyntaxTree) (param : Nat) : List Parameter :=
  if ["comment", "self_parameter", "this"].contains (t.kind param) then []
  else
    let typeName := (t.field? "type" param).bind fun node => nonEmpty? (cleanType (t.nodeText node))
    match t.fieldChildren "name" param with
    | first :: second :: rest =>
      (first :: second :: rest).filterMap fun name => parameter? (t.nodeText name) typeName
    | names =>
      let target := ((names.head?.or (t.field? "pattern" param)).or (t.field? "left" param)).or
        (t.field? "declarator" param)
      if t.kind (target.getD param) == "object_pattern" then destructured t (target.getD param)
      else
        let name := match target with
          | some node => targetName t node
          | none => bareParameterName t param
        (parameter? name typeName).toList

/-- The parameters of a parameter list. -/
def parameterList (t : SyntaxTree) (list : Nat) : List Parameter :=
  (t.namedChildren list).flatMap (parametersOf t)

end SourceAtlas.Declaration

/-! The attributes of one declaration, gathered from the qualifiers inside it. The first visibility,
parameter list and return type that are found stay. -/
namespace SourceAtlas

/-- What the qualifiers of a declaration say. -/
structure Attributes where
  visibility : Option Visibility := none
  isAsync : Bool := false
  isStatic : Bool := false
  parameters : Option (List Parameter) := none
  returnType : Option String := none
  canThrow : Bool := false
deriving Repr, DecidableEq

namespace Attributes

/-- A visibility keyword. -/
def addVisibility (a : Attributes) (text : String) : Attributes :=
  { a with visibility := a.visibility.or (Visibility.ofKeyword? text) }

/-- One word of a list of modifiers. -/
def addWord (a : Attributes) (word : String) : Attributes :=
  match word with
  | "async" => { a with isAsync := true }
  | "static" => { a with isStatic := true }
  | "public" | "private" | "protected" | "internal" => a.addVisibility word
  | _ => a

/-- A list of modifiers. A text that begins with `pub` states its visibility in its first run of
characters, restriction included. -/
def addModifiers (a : Attributes) (text : String) : Attributes :=
  let cs := text.toList
  let stated :=
    if ['p', 'u', 'b'].isPrefixOf (Chars.trimStart cs) then
      a.addVisibility (String.ofList ((Chars.words cs).head?.getD cs))
    else a
  let words := Chars.split (fun c => !(Chars.isAlphanumeric c || c == '_')) cs
  (words.map String.ofList).foldl addWord stated

/-- A parameter list. -/
def addParameters (a : Attributes) (parameters : List Parameter) : Attributes :=
  { a with parameters := a.parameters.or (some parameters) }

/-- A return type, unless it is blank. -/
def addReturnType (a : Attributes) (text : String) : Attributes :=
  { a with returnType := a.returnType.or (Declaration.nonEmpty? (Declaration.cleanType text)) }

/-- The symbol with these attributes. Flags are added to those it has; visibility and return type
replace those it has; parameters do so when a list was found. -/
def applyTo (a : Attributes) (s : Symbol) : Symbol :=
  { s with
    visibility := a.visibility
    isAsync := s.isAsync || a.isAsync
    isStatic := s.isStatic || a.isStatic
    canThrow := s.canThrow || a.canThrow
    parameters := a.parameters.getD s.parameters
    returnType := a.returnType }

end Attributes
end SourceAtlas
