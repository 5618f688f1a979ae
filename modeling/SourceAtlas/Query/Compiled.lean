import SourceAtlas.Query.Basic

/-! What is captured in Rust, Go, Java, C, C++ and C#: declarations, mentions of other symbols, and
qualifiers. -/
namespace SourceAtlas.Query
open Pattern

/-- The query for Rust. -/
def rust : Query := [
  named "function_item" |>.captured "function.definition",
  named "function_signature_item" |>.captured "method.definition",
  named "struct_item" |>.captured "struct.definition",
  named "enum_item" |>.captured "enum.definition",
  named "union_item" |>.captured "union.definition",
  named "trait_item" |>.captured "trait.definition",
  named "impl_item" |>.captured "impl.definition",
  named "type_item" |>.captured "type_alias.definition",
  named "const_item" |>.captured "constant.definition",
  named "static_item" |>.captured "static.definition",
  named "mod_item" |>.captured "namespace.definition",
  named "field_declaration" |>.captured "field.definition",
  named "use_declaration" [anything |>.inField "argument" |>.captured "import.source"],
  named "mod_item" [
    named "identifier" |>.inField "name" |>.captured "import.source"] |>.without "body",
  named "call_expression" [named "identifier" |>.inField "function" |>.captured "call.target"],
  named "call_expression" [
    named "field_expression" [
      named "field_identifier" |>.inField "field" |>.captured "call.target"] |>.inField "function"],
  named "call_expression" [
    named "scoped_identifier" [
      named "identifier" |>.inField "name" |>.captured "call.target"] |>.inField "function"],
  named "impl_item" [named "type_identifier" |>.inField "trait" |>.captured "implement.target"],
  named "trait_item" [
    named "trait_bounds" [
      named "type_identifier" |>.captured "inherit.target"] |>.inField "bounds"],
  named "struct_expression" [
    named "type_identifier" |>.inField "name" |>.captured "reference.identifier"],
  named "field_declaration" [
    named "type_identifier" |>.inField "type" |>.captured "reference.identifier"],
  named "parameter" [
    named "type_identifier" |>.inField "type" |>.captured "reference.identifier"],
  named "visibility_modifier" |>.captured "qualifier.visibility",
  named "function_modifiers" |>.captured "qualifier.modifiers",
  named "parameters" |>.captured "qualifier.parameters",
  named "function_item" [anything |>.inField "return_type" |>.captured "qualifier.return_type"],
  named "function_signature_item" [
    anything |>.inField "return_type" |>.captured "qualifier.return_type"],
  named "macro_invocation" [
    named "identifier" |>.inField "macro" |>.reading ["panic", "unreachable", "todo",
      "unimplemented"]]
  |>.captured "qualifier.throw",
  named "try_expression" |>.captured "qualifier.throw"]

/-- The query for Go. -/
def go : Query := [
  named "function_declaration" |>.captured "function.definition",
  named "method_declaration" |>.captured "method.definition",
  named "type_spec" [named "struct_type" |>.inField "type"] |>.captured "struct.definition",
  named "type_spec" [
    named "interface_type" |>.inField "type"] |>.captured "interface.definition",
  named "type_spec" |>.captured "type_alias.definition",
  named "type_alias" |>.captured "type_alias.definition",
  named "const_spec" |>.captured "constant.definition",
  named "var_spec" |>.captured "variable.definition",
  named "field_declaration" [
    named "field_identifier" |>.inField "name"] |>.captured "field.definition",
  named "import_spec" [
    named "interpreted_string_literal" |>.inField "path" |>.captured "import.source"],
  named "call_expression" [named "identifier" |>.inField "function" |>.captured "call.target"],
  named "call_expression" [
    named "selector_expression" [
      named "field_identifier" |>.inField "field" |>.captured "call.target"] |>.inField "function"],
  named "composite_literal" [
    named "type_identifier" |>.inField "type" |>.captured "reference.identifier"],
  named "function_declaration" [
    named "parameter_list" |>.inField "parameters" |>.captured "qualifier.parameters"],
  named "method_declaration" [
    named "parameter_list" |>.inField "parameters" |>.captured "qualifier.parameters"],
  named "function_declaration" [
    anything |>.inField "result" |>.captured "qualifier.return_type"],
  named "method_declaration" [anything |>.inField "result" |>.captured "qualifier.return_type"],
  named "call_expression" [
    named "identifier" |>.inField "function" |>.reading ["panic"]] |>.captured "qualifier.throw"]

/-- The query for Java. -/
def java : Query := [
  named "class_declaration" |>.captured "class.definition",
  named "record_declaration" |>.captured "class.definition",
  named "interface_declaration" |>.captured "interface.definition",
  named "annotation_type_declaration" |>.captured "interface.definition",
  named "enum_declaration" |>.captured "enum.definition",
  named "method_declaration" |>.captured "method.definition",
  named "constructor_declaration" |>.captured "constructor.definition",
  named "field_declaration" |>.captured "field.definition",
  named "import_declaration" |>.captured "import.source",
  named "method_invocation" [named "identifier" |>.inField "name" |>.captured "call.target"],
  named "object_creation_expression" [
    named "type_identifier" |>.inField "type" |>.captured "call.target"],
  named "superclass" [named "type_identifier" |>.captured "inherit.target"],
  named "super_interfaces" [
    named "type_list" [named "type_identifier" |>.captured "implement.target"]],
  named "extends_interfaces" [
    named "type_list" [named "type_identifier" |>.captured "inherit.target"]],
  named "modifiers" |>.captured "qualifier.modifiers",
  named "formal_parameters" |>.captured "qualifier.parameters",
  named "method_declaration" [anything |>.inField "type" |>.captured "qualifier.return_type"],
  named "throw_statement" |>.captured "qualifier.throw",
  named "throws" |>.captured "qualifier.throw"]

/-- The query for C. -/
def c : Query := [
  named "function_definition" |>.captured "function.definition",
  named "struct_specifier" [
    named "type_identifier" |>.inField "name",
    named "field_declaration_list" |>.inField "body"] |>.captured "struct.definition",
  named "union_specifier" [
    named "type_identifier" |>.inField "name",
    named "field_declaration_list" |>.inField "body"] |>.captured "union.definition",
  named "enum_specifier" [
    named "type_identifier" |>.inField "name",
    named "enumerator_list" |>.inField "body"] |>.captured "enum.definition",
  named "type_definition" [
    named "type_identifier" |>.inField "declarator"] |>.captured "type_alias.definition",
  named "declaration" [
    named "init_declarator" |>.inField "declarator"] |>.captured "variable.definition",
  named "declaration" [
    named "identifier" |>.inField "declarator"] |>.captured "variable.definition",
  named "field_declaration_list" [named "field_declaration" |>.captured "field.definition"],
  named "preproc_include" [named "string_literal" |>.inField "path" |>.captured "import.source"],
  named "call_expression" [named "identifier" |>.inField "function" |>.captured "call.target"],
  named "call_expression" [
    named "field_expression" [
      named "field_identifier" |>.inField "field" |>.captured "call.target"] |>.inField "function"],
  named "storage_class_specifier" |>.captured "qualifier.modifiers",
  named "function_declarator" [
    named "parameter_list" |>.inField "parameters" |>.captured "qualifier.parameters"],
  named "function_definition" [anything |>.inField "type" |>.captured "qualifier.return_type"]]

/-- The query for C++. -/
def cpp : Query := [
  named "function_definition" |>.captured "function.definition",
  named "template_declaration" |>.captured "template.definition",
  named "namespace_definition" |>.captured "namespace.definition",
  named "class_specifier" [
    named "type_identifier" |>.inField "name",
    named "field_declaration_list" |>.inField "body"] |>.captured "class.definition",
  named "struct_specifier" [
    named "type_identifier" |>.inField "name",
    named "field_declaration_list" |>.inField "body"] |>.captured "struct.definition",
  named "union_specifier" [
    named "type_identifier" |>.inField "name",
    named "field_declaration_list" |>.inField "body"] |>.captured "union.definition",
  named "enum_specifier" [
    named "type_identifier" |>.inField "name",
    named "enumerator_list" |>.inField "body"] |>.captured "enum.definition",
  named "type_definition" [
    named "type_identifier" |>.inField "declarator"] |>.captured "type_alias.definition",
  named "declaration" [
    named "init_declarator" |>.inField "declarator"] |>.captured "variable.definition",
  named "field_declaration_list" [named "field_declaration" |>.captured "field.definition"],
  named "preproc_include" [named "string_literal" |>.inField "path" |>.captured "import.source"],
  named "call_expression" [named "identifier" |>.inField "function" |>.captured "call.target"],
  named "call_expression" [
    named "field_expression" [
      named "field_identifier" |>.inField "field" |>.captured "call.target"] |>.inField "function"],
  named "call_expression" [
    named "qualified_identifier" [
      named "identifier" |>.inField "name" |>.captured "call.target"] |>.inField "function"],
  named "new_expression" [named "type_identifier" |>.inField "type" |>.captured "call.target"],
  named "base_class_clause" [named "type_identifier" |>.captured "inherit.target"],
  named "storage_class_specifier" |>.captured "qualifier.modifiers",
  named "function_declarator" [
    named "parameter_list" |>.inField "parameters" |>.captured "qualifier.parameters"],
  named "function_definition" [anything |>.inField "type" |>.captured "qualifier.return_type"],
  named "throw_statement" |>.captured "qualifier.throw"]

/-- The query for C#. -/
def csharp : Query := [
  named "namespace_declaration" |>.captured "namespace.definition",
  named "file_scoped_namespace_declaration" |>.captured "namespace.definition",
  named "class_declaration" |>.captured "class.definition",
  named "record_declaration" |>.captured "class.definition",
  named "interface_declaration" |>.captured "interface.definition",
  named "struct_declaration" |>.captured "struct.definition",
  named "enum_declaration" |>.captured "enum.definition",
  named "method_declaration" |>.captured "method.definition",
  named "constructor_declaration" |>.captured "constructor.definition",
  named "property_declaration" |>.captured "property.definition",
  named "field_declaration" |>.captured "field.definition",
  named "using_directive" [named "qualified_name" |>.captured "import.source"],
  named "using_directive" [named "identifier" |>.captured "import.source"],
  named "invocation_expression" [
    named "identifier" |>.inField "function" |>.captured "call.target"],
  named "invocation_expression" [
    named "member_access_expression" [
      named "identifier" |>.inField "name" |>.captured "call.target"] |>.inField "function"],
  named "object_creation_expression" [
    named "identifier" |>.inField "type" |>.captured "call.target"],
  named "base_list" [named "identifier" |>.captured "inherit.target"],
  named "modifier" |>.captured "qualifier.modifiers",
  named "parameter_list" |>.captured "qualifier.parameters",
  named "method_declaration" [anything |>.inField "returns" |>.captured "qualifier.return_type"],
  named "throw_statement" |>.captured "qualifier.throw",
  named "throw_expression" |>.captured "qualifier.throw"]

end SourceAtlas.Query
