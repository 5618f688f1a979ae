import SourceAtlas.Text

/-! The languages the atlas reads, in the order of their register, and the families whose members
share the conventions for declarations and imports. -/
namespace SourceAtlas

/-- Languages with the same conventions. -/
inductive Family where
  | javascript
  | python
  | rust
  | go
  | java
  | cfamily
  | csharp
  | ruby
  | php
  | lua
  | markup
  | style
deriving Repr, DecidableEq

namespace Family

def all : List Family :=
  [javascript, python, rust, go, java, cfamily, csharp, ruby, php, lua, markup, style]

/-- The written name. -/
def name : Family → String
  | javascript => "javascript"
  | python => "python"
  | rust => "rust"
  | go => "go"
  | java => "java"
  | cfamily => "cfamily"
  | csharp => "csharp"
  | ruby => "ruby"
  | php => "php"
  | lua => "lua"
  | markup => "markup"
  | style => "style"

/-- The family with a written name. -/
def ofName? (text : String) : Option Family :=
  all.find? (·.name == text)

end Family

/-- A registered language. -/
inductive Language where
  | javascript
  | typescript
  | tsx
  | python
  | rust
  | go
  | java
  | c
  | cpp
  | csharp
  | ruby
  | php
  | lua
  | html
  | css
deriving Repr, DecidableEq

namespace Language

/-- The register. -/
def all : List Language :=
  [javascript, typescript, tsx, python, rust, go, java, c, cpp, csharp, ruby, php, lua, html, css]

/-- The written name. -/
def name : Language → String
  | javascript => "javascript"
  | typescript => "typescript"
  | tsx => "tsx"
  | python => "python"
  | rust => "rust"
  | go => "go"
  | java => "java"
  | c => "c"
  | cpp => "cpp"
  | csharp => "csharp"
  | ruby => "ruby"
  | php => "php"
  | lua => "lua"
  | html => "html"
  | css => "css"

/-- The extensions of its files, in lower case. No two languages share one. -/
def extensions : Language → List String
  | javascript => ["js", "jsx", "mjs", "cjs"]
  | typescript => ["ts", "mts", "cts"]
  | tsx => ["tsx"]
  | python => ["py", "pyi"]
  | rust => ["rs"]
  | go => ["go"]
  | java => ["java"]
  | c => ["c", "h"]
  | cpp => ["cc", "cpp", "cxx", "hh", "hpp", "hxx"]
  | csharp => ["cs"]
  | ruby => ["rb"]
  | php => ["php"]
  | lua => ["lua"]
  | html => ["html", "htm"]
  | css => ["css"]

/-- The family a language belongs to. -/
def family : Language → Family
  | javascript | typescript | tsx => .javascript
  | python => .python
  | rust => .rust
  | go => .go
  | java => .java
  | c | cpp => .cfamily
  | csharp => .csharp
  | ruby => .ruby
  | php => .php
  | lua => .lua
  | html => .markup
  | css => .style

/-- The language with a written name. -/
def ofName? (text : String) : Option Language :=
  all.find? (·.name == text)

/-- The language of a file, by its extension in any case. -/
def ofPath? (path : String) : Option Language :=
  (Path.extension? path).bind fun ext =>
    all.find? fun language => language.extensions.contains (Text.lower ext)

end Language
end SourceAtlas
