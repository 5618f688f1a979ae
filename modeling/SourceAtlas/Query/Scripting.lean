import SourceAtlas.Query.Basic

/-! What is captured in JavaScript and TypeScript, Python, Ruby, PHP and Lua: declarations, mentions
of other symbols, and qualifiers. -/
namespace SourceAtlas.Query
open Pattern

/-- The query for JavaScript. -/
def javascript : Query := [
  named "function_declaration" |>.captured "function.definition",
  named "generator_function_declaration" |>.captured "function.definition",
  named "class_declaration" |>.captured "class.definition",
  named "method_definition" |>.captured "method.definition",
  named "field_definition" [
    named "property_identifier" |>.inField "property",
    named "arrow_function" |>.inField "value"] |>.captured "method.definition",
  named "field_definition" |>.captured "property.definition",
  named "variable_declarator" [
    named "identifier" |>.inField "name",
    oneOf ["arrow_function", "function_expression"] |>.inField "value"]
  |>.captured "arrow_function.definition",
  named "variable_declarator" [
    named "identifier" |>.inField "name"] |>.captured "variable.definition",
  named "export_statement" [anything |>.inField "value" |>.captured "function.definition"],
  named "import_statement" [named "string" |>.inField "source" |>.captured "import.source"],
  named "export_statement" [named "string" |>.inField "source" |>.captured "import.source"],
  named "call_expression" [
    named "identifier" |>.inField "function" |>.reading ["require"],
    named "arguments" [named "string" |>.captured "import.source"] |>.inField "arguments"],
  named "call_expression" [named "identifier" |>.inField "function" |>.captured "call.target"],
  named "call_expression" [
    named "member_expression" [
      named "property_identifier" |>.inField "property" |>.captured "call.target"]
    |>.inField "function"],
  named "new_expression" [named "identifier" |>.inField "constructor" |>.captured "call.target"],
  named "class_heritage" [named "identifier" |>.captured "inherit.target"],
  named "class_heritage" [
    named "member_expression" [
      named "property_identifier" |>.inField "property" |>.captured "inherit.target"]],
  named "jsx_opening_element" [
    named "identifier" |>.inField "name" |>.captured "reference.identifier"],
  named "jsx_self_closing_element" [
    named "identifier" |>.inField "name" |>.captured "reference.identifier"],
  named "function_declaration" [token "async" |>.captured "qualifier.async"],
  named "method_definition" [token "async" |>.captured "qualifier.async"],
  named "arrow_function" [token "async" |>.captured "qualifier.async"],
  named "function_expression" [token "async" |>.captured "qualifier.async"],
  named "method_definition" [token "static" |>.captured "qualifier.static"],
  named "field_definition" [token "static" |>.captured "qualifier.static"],
  named "formal_parameters" |>.captured "qualifier.parameters",
  named "throw_statement" |>.captured "qualifier.throw"]

/-- The query for TypeScript. -/
def typescript : Query := [
  named "function_declaration" |>.captured "function.definition",
  named "generator_function_declaration" |>.captured "function.definition",
  named "class_declaration" |>.captured "class.definition",
  named "abstract_class_declaration" |>.captured "class.definition",
  named "interface_declaration" |>.captured "interface.definition",
  named "type_alias_declaration" |>.captured "type_alias.definition",
  named "enum_declaration" |>.captured "enum.definition",
  named "internal_module" |>.captured "namespace.definition",
  named "method_definition" |>.captured "method.definition",
  named "method_signature" |>.captured "method.definition",
  named "public_field_definition" [
    named "arrow_function" |>.inField "value"] |>.captured "method.definition",
  named "public_field_definition" |>.captured "property.definition",
  named "variable_declarator" [
    named "identifier" |>.inField "name",
    oneOf ["arrow_function", "function_expression"] |>.inField "value"]
  |>.captured "arrow_function.definition",
  named "variable_declarator" [
    named "identifier" |>.inField "name"] |>.captured "variable.definition",
  named "export_statement" [anything |>.inField "value" |>.captured "function.definition"],
  named "import_statement" [named "string" |>.inField "source" |>.captured "import.source"],
  named "export_statement" [named "string" |>.inField "source" |>.captured "import.source"],
  named "call_expression" [named "identifier" |>.inField "function" |>.captured "call.target"],
  named "call_expression" [
    named "member_expression" [
      named "property_identifier" |>.inField "property" |>.captured "call.target"]
    |>.inField "function"],
  named "new_expression" [named "identifier" |>.inField "constructor" |>.captured "call.target"],
  named "extends_clause" [named "identifier" |>.inField "value" |>.captured "inherit.target"],
  named "extends_type_clause" [
    named "type_identifier" |>.inField "type" |>.captured "inherit.target"],
  named "implements_clause" [named "type_identifier" |>.captured "implement.target"],
  named "type_annotation" [named "type_identifier" |>.captured "reference.identifier"],
  named "accessibility_modifier" |>.captured "qualifier.visibility",
  named "function_declaration" [token "async" |>.captured "qualifier.async"],
  named "method_definition" [token "async" |>.captured "qualifier.async"],
  named "arrow_function" [token "async" |>.captured "qualifier.async"],
  named "function_expression" [token "async" |>.captured "qualifier.async"],
  named "method_definition" [token "static" |>.captured "qualifier.static"],
  named "public_field_definition" [token "static" |>.captured "qualifier.static"],
  named "formal_parameters" |>.captured "qualifier.parameters",
  named "function_declaration" [
    named "type_annotation" |>.inField "return_type" |>.captured "qualifier.return_type"],
  named "method_definition" [
    named "type_annotation" |>.inField "return_type" |>.captured "qualifier.return_type"],
  named "method_signature" [
    named "type_annotation" |>.inField "return_type" |>.captured "qualifier.return_type"],
  named "arrow_function" [
    named "type_annotation" |>.inField "return_type" |>.captured "qualifier.return_type"],
  named "throw_statement" |>.captured "qualifier.throw"]

/-- The query for Python. -/
def python : Query := [
  named "function_definition" |>.captured "function.definition",
  named "class_definition" |>.captured "class.definition",
  named "expression_statement" [
    named "assignment" [named "identifier" |>.inField "left"] |>.captured "variable.definition"],
  named "import_statement" [named "dotted_name" |>.inField "name" |>.captured "import.source"],
  named "import_statement" [
    named "aliased_import" [
      named "dotted_name" |>.inField "name" |>.captured "import.source"] |>.inField "name"],
  named "import_from_statement" [
    named "dotted_name" |>.inField "module_name" |>.captured "import.source"],
  named "import_from_statement" [
    named "relative_import" |>.inField "module_name" |>.captured "import.source"],
  named "call" [named "identifier" |>.inField "function" |>.captured "call.target"],
  named "call" [
    named "attribute" [
      named "identifier" |>.inField "attribute" |>.captured "call.target"] |>.inField "function"],
  named "class_definition" [
    named "argument_list" [
      named "identifier" |>.captured "inherit.target"] |>.inField "superclasses"],
  named "class_definition" [
    named "argument_list" [
      named "attribute" [named "identifier" |>.inField "attribute" |>.captured "inherit.target"]]
    |>.inField "superclasses"],
  named "function_definition" [token "async" |>.captured "qualifier.async"],
  named "function_definition" [
    named "parameters" |>.inField "parameters" |>.captured "qualifier.parameters"],
  named "function_definition" [
    named "type" |>.inField "return_type" |>.captured "qualifier.return_type"],
  named "raise_statement" |>.captured "qualifier.throw"]

/-- The query for Ruby. -/
def ruby : Query := [
  named "class" |>.captured "class.definition",
  named "module" |>.captured "namespace.definition",
  named "method" |>.captured "method.definition",
  named "singleton_method" |>.captured "method.definition",
  named "assignment" [named "constant" |>.inField "left"] |>.captured "constant.definition",
  named "call" [
    named "identifier" |>.inField "method" |>.reading ["require", "require_relative"],
    named "argument_list" [named "string" |>.captured "import.source"] |>.inField "arguments"],
  named "call" [named "identifier" |>.inField "method" |>.captured "call.target"],
  named "superclass" [named "constant" |>.captured "inherit.target"],
  named "method_parameters" |>.captured "qualifier.parameters",
  named "call" [
    named "identifier" |>.inField "method" |>.reading ["raise"]] |>.captured "qualifier.throw"]

/-- The query for PHP. -/
def php : Query := [
  named "namespace_definition" |>.captured "namespace.definition",
  named "function_definition" |>.captured "function.definition",
  named "class_declaration" |>.captured "class.definition",
  named "interface_declaration" |>.captured "interface.definition",
  named "trait_declaration" |>.captured "trait.definition",
  named "enum_declaration" |>.captured "enum.definition",
  named "method_declaration" |>.captured "method.definition",
  named "property_declaration" |>.captured "property.definition",
  named "const_declaration" |>.captured "constant.definition",
  named "namespace_use_clause" [named "qualified_name" |>.captured "import.source"],
  named "require_expression" [named "string" |>.captured "import.source"],
  named "require_once_expression" [named "string" |>.captured "import.source"],
  named "include_expression" [named "string" |>.captured "import.source"],
  named "include_once_expression" [named "string" |>.captured "import.source"],
  named "function_call_expression" [
    named "name" |>.inField "function" |>.captured "call.target"],
  named "member_call_expression" [named "name" |>.inField "name" |>.captured "call.target"],
  named "scoped_call_expression" [named "name" |>.inField "name" |>.captured "call.target"],
  named "object_creation_expression" [named "name" |>.captured "call.target"],
  named "base_clause" [named "name" |>.captured "inherit.target"],
  named "class_interface_clause" [named "name" |>.captured "implement.target"],
  named "visibility_modifier" |>.captured "qualifier.visibility",
  named "static_modifier" |>.captured "qualifier.static",
  named "formal_parameters" |>.captured "qualifier.parameters"]

/-- The query for Lua. -/
def lua : Query := [
  named "function_declaration" |>.captured "function.definition",
  named "function_call" [
    named "identifier" |>.inField "name" |>.reading ["require"],
    named "arguments" [named "string" |>.captured "import.source"] |>.inField "arguments"],
  named "function_call" [named "identifier" |>.inField "name" |>.captured "call.target"],
  named "function_call" [
    named "dot_index_expression" [
      named "identifier" |>.inField "field" |>.captured "call.target"] |>.inField "name"],
  named "function_call" [
    named "method_index_expression" [
      named "identifier" |>.inField "method" |>.captured "call.target"] |>.inField "name"],
  named "function_call" [
    named "identifier" |>.inField "name" |>.reading ["error"]] |>.captured "qualifier.throw"]

end SourceAtlas.Query
