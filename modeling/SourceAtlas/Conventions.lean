import SourceAtlas.Declaration.Basic
import SourceAtlas.Declaration.Text
import SourceAtlas.Graph

/-! What a language family decides about declarations. Every convention has a default, and a family
states only those in which it differs. -/
namespace SourceAtlas

/-- The conventions of a family. -/
structure Conventions where
  /-- Kinds of nodes whose insides hold locals, which are not symbols. -/
  scopes : List String := []
  /-- Whether a captured definition is not one after all. -/
  skips : SyntaxTree → SymbolKind → Nat → Bool := fun _ _ _ => false
  /-- The name of the declared symbol. -/
  symbolName? : SyntaxTree → SymbolKind → Nat → Option String := fun t _ node =>
    (Declaration.nameNode? t node).bind fun name =>
      Declaration.nonEmpty? (Text.collapse (t.nodeText name))
  /-- The final kind, once the name is known and whether the symbol is a member. -/
  refine : SyntaxTree → SymbolKind → Nat → String → Bool → SymbolKind := fun _ kind _ _ _ => kind
  /-- The owner of a member that is declared outside of it. -/
  detachedOwner? : SyntaxTree → Nat → Option String := fun _ _ => none
  /-- What qualifies the members of a container with a given qualified name. -/
  memberPath : SyntaxTree → SymbolKind → Nat → String → String := fun _ _ _ qualified => qualified
  /-- Whether containers of a kind may be split into several declarations. -/
  merges : SymbolKind → Bool := fun _ => false
  /-- The visibility of a symbol that does not state one, by name and whether it is a member. -/
  visibility? : String → Bool → Option Visibility := fun _ _ => none
  /-- Attributes that only this family has. -/
  decorate : SyntaxTree → Nat → Symbol → Symbol := fun _ _ symbol => symbol
  /-- What an import statement asks for. -/
  importSpec? : SyntaxTree → Nat → Option String := fun t node =>
    Declaration.nonEmpty? (Text.trim (Text.unquote (t.nodeText node)))
  /-- How a class relates to a base with a given name. -/
  inheritance : String → RelationKind := fun _ => .inherits

namespace Conventions

/-- The name found by looking for its node, on one line. -/
def nameBy (find : SyntaxTree → SymbolKind → Nat → Option Nat) (t : SyntaxTree)
    (kind : SymbolKind) (node : Nat) : Option String :=
  (find t kind node).bind fun name => Declaration.nonEmpty? (Text.collapse (t.nodeText name))

end Conventions
end SourceAtlas

/-! JavaScript and TypeScript: a function bound to a name is that binding, a default export
declares something only if it is a function or a class, and a hash sign makes a member private. -/
namespace SourceAtlas.Conventions.Javascript

/-- The kind of the value a binding or field is set to. -/
def valueKind? (t : SyntaxTree) (node : Nat) : Option String :=
  (t.field? "value" node).map t.kind

/-- Whether a node is the value of the statement around it. -/
def isValue (t : SyntaxTree) (node : Nat) : Bool :=
  (t.parent? node).any fun parent => t.field? "value" parent == some node

/-- A value that is exported by default and declares something. -/
def declaresValue (kind : String) : Bool :=
  ["function_expression", "arrow_function", "class", "generator_function"].contains kind

def skips (t : SyntaxTree) (kind : SymbolKind) (node : Nat) : Bool :=
  match kind with
  | .binding => (valueKind? t node).any ["arrow_function", "function_expression"].contains
  | .property => valueKind? t node == some "arrow_function"
  | .function => isValue t node && !declaresValue (t.kind node)
  | _ => false

/-- Whether the statement around a binding begins with `const`. -/
def isConst (t : SyntaxTree) (node : Nat) : Bool :=
  let statement := ((t.parent? node).map t.nodeText).getD ""
  "const".toList.isPrefixOf (Chars.trimStart statement.toList)

def refine (t : SyntaxTree) (kind : SymbolKind) (node : Nat) (name : String) (_ : Bool) :
    SymbolKind :=
  match kind with
  | .function =>
    if t.kind node == "class" then .classType
    else if t.kind node == "arrow_function" then .arrowFunction
    else .function
  | .method => if name == "constructor" then .constructor else .method
  | .binding => if isConst t node then .constant else .binding
  | kind => kind

/-- The conventions of JavaScript and TypeScript. -/
def conventions : Conventions where
  scopes := ["function_declaration", "generator_function_declaration", "function_expression",
    "generator_function", "arrow_function", "method_definition"]
  skips := skips
  refine := refine
  visibility? name _ := if Text.startsWith "#" name then some .privateAccess else none

end SourceAtlas.Conventions.Javascript

/-! Python: names say what is private and what is constant, and decorators say what is static. -/
namespace SourceAtlas.Conventions.Python

/-- A name with capitals and no small letters. -/
def isConstantName (name : String) : Bool :=
  name.toList.any Char.isUpper && !name.toList.any Char.isLower

def refine (_ : SyntaxTree) (kind : SymbolKind) (_ : Nat) (name : String) (isMember : Bool) :
    SymbolKind :=
  match kind with
  | .method => if isMember && name == "__init__" then .constructor else .method
  | .binding => if isConstantName name then .constant else .binding
  | kind => kind

/-- A leading underscore makes a name private, unless two stand at each end. -/
def visibility (name : String) : Visibility :=
  if Text.startsWith "__" name && Text.endsWith "__" name then .publicAccess
  else if Text.startsWith "_" name then .privateAccess
  else .publicAccess

/-- Whether a decorator of the definition makes it independent of an instance. -/
def isStatic (t : SyntaxTree) (node : Nat) : Bool :=
  (t.parent? node).any fun parent =>
    t.kind parent == "decorated_definition" && (t.namedChildren parent).any fun child =>
      t.kind child == "decorator" && (Text.contains "staticmethod" (t.nodeText child) ||
        Text.contains "classmethod" (t.nodeText child))

/-- The conventions of Python. -/
def conventions : Conventions where
  scopes := ["function_definition", "lambda"]
  symbolName? := nameBy fun t _ node => (t.field? "name" node).or (t.field? "left" node)
  refine := refine
  visibility? name _ := some (visibility name)
  decorate t node symbol := { symbol with isStatic := symbol.isStatic || isStatic t node }

end SourceAtlas.Conventions.Python

/-! Rust: an implementation block has no name of its own, and several blocks add members to the same
type. What is not declared public is private. -/
namespace SourceAtlas.Conventions.Rust

/-- The description of an implementation block. -/
def implName? (t : SyntaxTree) (node : Nat) : Option String :=
  (t.field? "type" node).map fun type =>
    let target := Text.collapse (t.nodeText type)
    match t.field? "trait" node with
    | some trait => "impl " ++ t.nodeText trait ++ " for " ++ target
    | none => "impl " ++ target

def symbolName? (t : SyntaxTree) (kind : SymbolKind) (node : Nat) : Option String :=
  if kind == .impl then implName? t node else (Declaration.nameNode? t node).map t.nodeText

/-- Members of an implementation block belong to the type it is for. -/
def memberPath (t : SyntaxTree) (kind : SymbolKind) (node : Nat) (qualified : String) : String :=
  if kind == .impl then
    ((t.field? "type" node).map fun type => Declaration.withoutGenerics (t.nodeText type)).getD
      qualified
  else qualified

/-- The conventions of Rust. -/
def conventions : Conventions where
  scopes := ["function_item", "closure_expression"]
  symbolName? := symbolName?
  memberPath := memberPath
  merges kind := kind == .impl
  visibility? _ _ := some .privateAccess

end SourceAtlas.Conventions.Rust

/-! Go: methods are declared outside their type and name it in the receiver, capitals are public,
and a result that mentions an error may be one. -/
namespace SourceAtlas.Conventions.Go

/-- A type declaration of a struct or an interface is captured as that, not as an alias. -/
def skips (t : SyntaxTree) (kind : SymbolKind) (node : Nat) : Bool :=
  kind == .typeAlias && t.kind node == "type_spec" &&
    (t.field? "type" node).any fun type => ["struct_type", "interface_type"].contains (t.kind type)

/-- Type constructors around the type of a receiver. -/
def isWrapper (kind : String) : Bool :=
  kind == "pointer_type" || kind == "generic_type"

/-- The type inside a pointer or in front of type arguments. -/
def innerType? (t : SyntaxTree) (node : Nat) : Option Nat :=
  if isWrapper (t.kind node) then (t.field? "type" node).or (t.namedChildren node).head? else none

/-- The type a method is declared for. -/
def receiver? (t : SyntaxTree) (node : Nat) : Option String := do
  if t.kind node != "method_declaration" then none
  let receiver ← t.field? "receiver" node
  let parameter ← t.namedDescendant? "parameter_declaration" receiver
  let outer ← t.field? "type" parameter
  let inner ← (t.chain (innerType? t) outer).getLast?
  if isWrapper (t.kind inner) then none
  some (Declaration.withoutGenerics (t.nodeText inner))

/-- Whether the result of a function mentions an error. -/
def mayFail (t : SyntaxTree) (node : Nat) : Bool :=
  (t.field? "result" node).any fun result => Text.contains "error" (t.nodeText result)

/-- The conventions of Go. -/
def conventions : Conventions where
  scopes := ["function_declaration", "method_declaration", "func_literal"]
  skips := skips
  detachedOwner? := receiver?
  visibility? name _ := name.toList.head?.map fun c =>
    if Chars.isUppercase c then .publicAccess else .privateAccess
  decorate t node symbol := { symbol with canThrow := symbol.canThrow || mayFail t node }

end SourceAtlas.Conventions.Go

/-! Java: a static final field is a constant, and what states no visibility has the default one. -/
namespace SourceAtlas.Conventions.Java

def refine (t : SyntaxTree) (kind : SymbolKind) (node : Nat) (_ : String) (_ : Bool) :
    SymbolKind :=
  if kind == .field then
    let modifiers := ((t.namedChild? (· == "modifiers") node).map t.nodeText).getD ""
    if Text.contains "static" modifiers && Text.contains "final" modifiers then .constant else kind
  else kind

/-- The imported name without keywords, semicolon and white space. -/
def importSpec? (t : SyntaxTree) (node : Nat) : Option String :=
  let statement := Chars.trim (t.nodeText node).toList
  let named := Chars.trim (Chars.dropTail (· == ';') (Chars.dropLead "import".toList statement))
  let target := ("static ".toList.isPrefixOf? named).getD named
  Declaration.nonEmpty? (String.ofList (target.filter fun c => !Chars.isBlank c))

/-- The conventions of Java. -/
def conventions : Conventions where
  scopes := ["method_declaration", "constructor_declaration", "lambda_expression",
    "static_initializer"]
  refine := refine
  visibility? _ _ := some .defaultAccess
  importSpec? := importSpec?

end SourceAtlas.Conventions.Java

/-! C and C++: names stand at the end of declarators, a field with a parameter list is a method, and
a function may be defined outside its class under a qualified name. -/
namespace SourceAtlas.Conventions.CFamily

/-- What a template may declare. -/
def templateKinds : List String :=
  ["class_specifier", "struct_specifier", "function_definition", "declaration",
    "alias_declaration", "concept_definition"]

/-- A template has the name of what it declares. -/
def nameNode? (t : SyntaxTree) (kind : SymbolKind) (node : Nat) : Option Nat :=
  if kind == .template then
    (t.namedChild? templateKinds.contains node).bind (Declaration.nameNode? t)
  else Declaration.nameNode? t node

/-- Whether a declaration has the qualifier `const`. -/
def isConst (t : SyntaxTree) (node : Nat) : Bool :=
  (t.namedChildren node).any fun child =>
    t.kind child == "type_qualifier" && t.nodeText child == "const"

def refine (t : SyntaxTree) (kind : SymbolKind) (node : Nat) (_ : String) (_ : Bool) :
    SymbolKind :=
  match kind with
  | .field =>
    if (t.field? "declarator" node).any (Declaration.hasDeclarator t "function_declarator") then
      .method
    else .field
  | .binding => if isConst t node then .constant else .binding
  | kind => kind

/-- The scope in the qualified name of a function definition. -/
def qualifyingScope? (t : SyntaxTree) (node : Nat) : Option String := do
  if t.kind node != "function_definition" then none
  let declarator ← t.field? "declarator" node
  let qualified ← (t.chain (t.field? "declarator") declarator).find? fun inner =>
    t.kind inner == "qualified_identifier"
  let scope ← t.field? "scope" qualified
  some (Declaration.withoutGenerics (t.nodeText scope))

/-- The conventions of C and C++. -/
def conventions : Conventions where
  scopes := ["function_definition", "lambda_expression"]
  -- nameless members and padding have no declarator
  skips t kind node := kind == .field && (t.field? "declarator" node).isNone
  symbolName? := nameBy nameNode?
  refine := refine
  detachedOwner? := qualifyingScope?

end SourceAtlas.Conventions.CFamily

/-! C#: members are private and everything else internal unless stated otherwise, and a base whose
name begins like that of an interface is implemented. -/
namespace SourceAtlas.Conventions.CSharp

/-- A field has the name of its first declarator. -/
def nameNode? (t : SyntaxTree) (kind : SymbolKind) (node : Nat) : Option Nat :=
  if kind == .field then
    (t.namedDescendant? "variable_declarator" node).bind fun declarator =>
      (t.field? "name" declarator).or (t.namedChild? (· == "identifier") declarator)
  else t.field? "name" node

/-- A capital I and another capital begin the name of an interface. -/
def isInterfaceName (name : String) : Bool :=
  match name.toList with
  | 'I' :: c :: _ => c.isUpper
  | _ => false

/-- The conventions of C#. -/
def conventions : Conventions where
  scopes := ["method_declaration", "constructor_declaration", "local_function_statement",
    "lambda_expression", "accessor_declaration", "anonymous_method_expression"]
  symbolName? := nameBy nameNode?
  visibility? _ isMember := some (if isMember then .privateAccess else .internalAccess)
  inheritance name := if isInterfaceName name then .implements else .inherits

end SourceAtlas.Conventions.CSharp

/-! Ruby, PHP and Lua. -/
namespace SourceAtlas.Conventions

/-- The conventions of Ruby: methods of the class itself are static. -/
def ruby : Conventions where
  scopes := ["method", "singleton_method", "block", "do_block", "lambda"]
  symbolName? := nameBy fun t _ node => (t.field? "name" node).or (t.field? "left" node)
  decorate t node symbol :=
    if t.kind node == "singleton_method" then { symbol with isStatic := true } else symbol

/-- The node that names a PHP declaration. -/
def phpNameNode? (t : SyntaxTree) (kind : SymbolKind) (node : Nat) : Option Nat :=
  match kind with
  | .property => t.namedDescendant? "variable_name" node
  | .constant => t.namedDescendant? "name" node
  | _ => t.field? "name" node

/-- The conventions of PHP: names lose their dollar sign, and members are public. -/
def php : Conventions where
  scopes := ["function_definition", "method_declaration", "anonymous_function",
    "anonymous_function_creation_expression", "arrow_function"]
  symbolName? t kind node := (phpNameNode? t kind node).bind fun name =>
    let bare := (t.nodeText name).toList.dropWhile (· == '$')
    Declaration.nonEmpty? (String.ofList (Chars.trim bare))
  visibility? _ isMember := if isMember then some .publicAccess else none

/-- The parts of a Lua function name that is an entry of a table: the table and the entry. -/
def luaIndexed? (t : SyntaxTree) (name : Nat) : Option (Option Nat × Option Nat) :=
  match t.kind name with
  | "dot_index_expression" => some (t.field? "table" name, t.field? "field" name)
  | "method_index_expression" => some (t.field? "table" name, t.field? "method" name)
  | _ => none

/-- The conventions of Lua: a function may be declared as an entry of a table, which owns it. -/
def lua : Conventions where
  scopes := ["function_declaration", "function_definition"]
  symbolName? := nameBy fun t _ node => (t.field? "name" node).bind fun name =>
    match luaIndexed? t name with
    | some (_, entry) => entry
    | none => some name
  detachedOwner? t node := (t.field? "name" node).bind fun name =>
    (luaIndexed? t name).bind fun (table, _) => table.map t.nodeText

/-! Markup and style sheets. -/

/-- The name in the opening tag of an element. -/
def tagNode? (t : SyntaxTree) (node : Nat) : Option Nat :=
  (t.namedChild? ["start_tag", "self_closing_tag"].contains node).bind
    (t.namedChild? (· == "tag_name"))

/-- The conventions of markup: an element is named by its tag, in lower case. -/
def markup : Conventions where
  symbolName? t _ node := (tagNode? t node).map fun tag => Text.lower (t.nodeText tag)
  decorate _ _ symbol := { symbol with tagName := some symbol.name }

/-- The conventions of style sheets: a rule is named by its selectors. -/
def style : Conventions where
  symbolName? := nameBy fun t _ node => t.namedChild? (· == "selectors") node
  decorate t node symbol :=
    { symbol with selector := some symbol.name, styleIntents := StyleIntent.ofRule t node }

end SourceAtlas.Conventions

/-! The conventions of each family. -/
namespace SourceAtlas.Family

/-- The conventions for declarations of the family. -/
def conventions : Family → Conventions
  | javascript => Conventions.Javascript.conventions
  | python => Conventions.Python.conventions
  | rust => Conventions.Rust.conventions
  | go => Conventions.Go.conventions
  | java => Conventions.Java.conventions
  | cfamily => Conventions.CFamily.conventions
  | csharp => Conventions.CSharp.conventions
  | ruby => Conventions.ruby
  | php => Conventions.php
  | lua => Conventions.lua
  | markup => Conventions.markup
  | style => Conventions.style

end SourceAtlas.Family
