import SourceAtlas.Text

/-! Symbols: the declarations of a source file and the file itself. What a symbol is, who may see
it, and what a style rule is for each have a written name, and a name is read by looking for the
value that has it. -/
namespace SourceAtlas

/-- The kinds of symbols a source file declares, and the file itself. -/
inductive SymbolKind where
  | file
  | classType
  | function
  | arrowFunction
  | method
  | constructor
  | interface
  | typeAlias
  | enum
  | nameSpace
  | struct
  | trait
  | impl
  | union
  | template
  | property
  | field
  | binding
  | constant
  | static
  | markupElement
  | styleRule
deriving Repr, DecidableEq, Inhabited

namespace SymbolKind

/-- Every kind. -/
def all : List SymbolKind :=
  [file, classType, function, arrowFunction, method, constructor, interface, typeAlias, enum,
    nameSpace, struct, trait, impl, union, template, property, field, binding, constant,
    static, markupElement, styleRule]

/-- The written name. -/
def name : SymbolKind → String
  | file => "file"
  | classType => "class"
  | function => "function"
  | arrowFunction => "arrow-function"
  | method => "method"
  | constructor => "constructor"
  | interface => "interface"
  | typeAlias => "type-alias"
  | enum => "enum"
  | nameSpace => "namespace"
  | struct => "struct"
  | trait => "trait"
  | impl => "impl"
  | union => "union"
  | template => "template"
  | property => "property"
  | field => "field"
  | binding => "variable"
  | constant => "constant"
  | static => "static"
  | markupElement => "markup-element"
  | styleRule => "style-rule"

/-- The kind with a written name. -/
def ofName? (text : String) : Option SymbolKind :=
  all.find? (·.name == text)

/-- The word that stands for the kind in the name of a definition capture. A file is not
captured. -/
def captureWord? : SymbolKind → Option String
  | file => none
  | arrowFunction => some "arrow_function"
  | typeAlias => some "type_alias"
  | markupElement => some "element"
  | styleRule => some "rule"
  | kind => some kind.name

/-- The kind that a capture word stands for. -/
def ofCaptureWord? (word : String) : Option SymbolKind :=
  all.find? (·.captureWord? == some word)

/-- Kinds that are called. -/
def isCallable : SymbolKind → Bool
  | function | arrowFunction | method | constructor => true
  | _ => false

/-- Kinds that own members. -/
def isContainer : SymbolKind → Bool
  | classType | interface | struct | trait | impl | enum | union => true
  | _ => false

/-- Kinds whose members are qualified by its name: containers, and templates around one. -/
def qualifiesMembers (kind : SymbolKind) : Bool :=
  kind.isContainer || kind == template

/-- Kinds that a name may refer to from anywhere in the project. -/
def isGlobal : SymbolKind → Bool
  | classType | function | interface | struct | typeAlias | enum => true
  | _ => false

end SymbolKind

/-- Who may use a symbol. -/
inductive Visibility where
  | publicAccess
  | privateAccess
  | protectedAccess
  | internalAccess
  | defaultAccess
deriving Repr, DecidableEq

namespace Visibility

def all : List Visibility :=
  [publicAccess, privateAccess, protectedAccess, internalAccess, defaultAccess]

/-- The written name. -/
def name : Visibility → String
  | publicAccess => "public"
  | privateAccess => "private"
  | protectedAccess => "protected"
  | internalAccess => "internal"
  | defaultAccess => "default"

/-- The visibility with a written name. -/
def ofName? (text : String) : Option Visibility :=
  all.find? (·.name == text)

/-- The visibility a keyword states. `pub` with a restriction in parentheses is internal. -/
def ofKeyword? (text : String) : Option Visibility :=
  let word := Text.trim text
  if Text.startsWith "pub(" word then some internalAccess
  else match word with
    | "public" | "pub" | "export" => some publicAccess
    | "private" => some privateAccess
    | "protected" => some protectedAccess
    | "internal" => some internalAccess
    | _ => none

end Visibility

/-- What the properties of a style rule affect. -/
inductive StyleIntent where
  | appearance
  | layout
  | typography
deriving Repr, DecidableEq

namespace StyleIntent

/-- The intents in the order in which a rule lists them. -/
def all : List StyleIntent :=
  [appearance, layout, typography]

/-- The written name. -/
def name : StyleIntent → String
  | appearance => "appearance"
  | layout => "layout"
  | typography => "typography"

/-- The intent with a written name. -/
def ofName? (text : String) : Option StyleIntent :=
  all.find? (·.name == text)

end StyleIntent

/-- A parameter of something callable. -/
structure Parameter where
  name : String
  typeName : Option String
deriving Repr, DecidableEq

/-- One node of the graph. The id is the path for a file, and the path with a qualified name behind
a hash sign for everything else. -/
structure Symbol where
  id : String
  kind : SymbolKind
  name : String
  filePath : String
  startLine : Nat
  endLine : Nat
  language : Option String := none
  visibility : Option Visibility := none
  isAsync : Bool := false
  isStatic : Bool := false
  returnType : Option String := none
  parameters : List Parameter := []
  canThrow : Bool := false
  isPure : Option Bool := none
  codeSnippet : Option String := none
  tagName : Option String := none
  selector : Option String := none
  styleIntents : List StyleIntent := []
deriving Repr, DecidableEq

/-- The symbol that stands for a whole file; it has at least one line. -/
def Symbol.ofFile (path language : String) (lines : Nat) : Symbol where
  id := path
  kind := .file
  name := Path.fileName path
  filePath := path
  startLine := 1
  endLine := max 1 lines
  language := some language

/-! Symbols by id. The table keeps them in increasing order of their ids, so it depends only on what
is in it. -/

/-- Symbols with distinct ids, increasing by id. -/
structure SymbolTable where
  symbols : List Symbol := []
deriving Repr, DecidableEq

namespace SymbolTable

def get? (table : SymbolTable) (id : String) : Option Symbol :=
  table.symbols.find? (·.id == id)

def contains (table : SymbolTable) (id : String) : Bool :=
  table.symbols.any (·.id == id)

def ids (table : SymbolTable) : List String :=
  table.symbols.map (·.id)

/-- Adds a symbol, unless its id is there already. -/
def addNew (table : SymbolTable) (symbol : Symbol) : SymbolTable :=
  ⟨Sorted.insertNew (·.id) symbol table.symbols⟩

/-- Adds a symbol, in place of the one with its id. -/
def put (table : SymbolTable) (symbol : Symbol) : SymbolTable :=
  ⟨Sorted.insertOver (·.id) symbol table.symbols⟩

/-- The first symbol of each id. -/
def ofFirsts (symbols : List Symbol) : SymbolTable :=
  symbols.foldl addNew {}

/-- The last symbol of each id. -/
def ofLasts (symbols : List Symbol) : SymbolTable :=
  symbols.foldl put {}

end SymbolTable
end SourceAtlas
