import SourceAtlas.Query.Compiled
import SourceAtlas.Query.Scripting

/-! What is captured in markup and style sheets, the query of each registered language, and the
languages that have been prepared. -/
namespace SourceAtlas.Query
open Pattern

/-- The query for HTML. -/
def html : Query := [
  named "element" |>.captured "element.definition",
  named "script_element" |>.captured "element.definition",
  named "style_element" |>.captured "element.definition",
  named "attribute" [
    named "attribute_name" |>.reading ["class"],
    named "quoted_attribute_value" [named "attribute_value" |>.captured "markup.class"]],
  named "attribute" [
    named "attribute_name" |>.reading ["class"],
    named "attribute_value" |>.captured "markup.class"],
  named "attribute" [
    named "attribute_name" |>.reading ["id"],
    named "quoted_attribute_value" [named "attribute_value" |>.captured "markup.id"]],
  named "attribute" [
    named "attribute_name" |>.reading ["href", "src"],
    named "quoted_attribute_value" [named "attribute_value" |>.captured "import.source"]]]

/-- The query for CSS. -/
def css : Query := [
  named "rule_set" |>.captured "rule.definition",
  named "import_statement" [named "string_value" |>.captured "import.source"]]

end SourceAtlas.Query

namespace SourceAtlas.Language

/-- What is captured in a file of the language. -/
def query : Language → Query
  | javascript => Query.javascript
  | typescript | tsx => Query.typescript
  | python => Query.python
  | rust => Query.rust
  | go => Query.go
  | java => Query.java
  | c => Query.c
  | cpp => Query.cpp
  | csharp => Query.csharp
  | ruby => Query.ruby
  | php => Query.php
  | lua => Query.lua
  | html => Query.html
  | css => Query.css

end SourceAtlas.Language

/-! Languages that have been asked for. A language is prepared when it is first asked for and kept
from then on. -/
namespace SourceAtlas

/-- The languages prepared so far, each once. -/
structure Prepared where
  languages : List Language := []
deriving Repr, DecidableEq

namespace Prepared

/-- Asks for a language by name. The answer says whether there is one. -/
def load (prepared : Prepared) (name : String) : Bool × Prepared :=
  match Language.ofName? name with
  | some language => (true, ⟨Sorted.distinct (prepared.languages ++ [language])⟩)
  | none => (false, prepared)

def size (prepared : Prepared) : Nat :=
  prepared.languages.length

end Prepared
end SourceAtlas
