import SourceAtlas.Json.Basic
import SourceAtlas.Symbol.Basic

/-! Symbols as JSON objects. The six identifying fields are always written; every other field is
left out when it says nothing (absent, false or empty) and read back as that. A record is also read
from the list of its values in the order of its fields. -/
namespace SourceAtlas

/-- A field that is written only when it has a value. -/
def Json.optional (key : String) : Option Json → List (String × Json)
  | some value => [(key, value)]
  | none => []

/-- A flag that is written only when it is set. -/
def Json.flag (key : String) (value : Bool) : List (String × Json) :=
  if value then [(key, .bool true)] else []

/-- A list that is written only when it has items. -/
def Json.listed (key : String) (items : List Json) : List (String × Json) :=
  if items.isEmpty then [] else [(key, .array items)]

/-- Reads a field that may be missing or null. A value that does not fit is an error. -/
def Json.readOptional (json : Json) (key : String) (read : Json → Option α) : Option (Option α) :=
  match json.get? key with
  | none | some .null => some none
  | some value => (read value).map some

/-- Reads a field that has a meaning when it is missing. -/
def Json.readOr (json : Json) (key : String) (missing : α) (read : Json → Option α) : Option α :=
  match json.get? key with
  | none => some missing
  | some value => read value

/-- Reads a list whose items all fit. -/
def Json.readList (read : Json → Option α) (json : Json) : Option (List α) :=
  json.items?.bind fun items => items.mapM read

/-- A record with the fields `names`, as an object: it is one, or it is a list of values, one for
each of the first fields. -/
def Json.record? (names : List String) : Json → Option Json
  | .object fields => some (.object fields)
  | .array items => if items.length ≤ names.length then some (.object (names.zip items)) else none
  | _ => none

/-- The name of a choice that carries nothing: a text, or an object that has null under that name
and no other field. -/
def Json.choice? : Json → Option String
  | .string name => some name
  | .object [(name, .null)] => some name
  | _ => none

namespace Parameter

/-- The names of the fields, in order. -/
def fieldNames : List String := ["name", "type_name"]

/-- A parameter as an object. -/
def toJson (p : Parameter) : Json :=
  .object (("name", .string p.name) :: Json.optional "type_name" (p.typeName.map .string))

/-- Reads a parameter. -/
def ofJson? (json : Json) : Option Parameter := do
  let json ← json.record? fieldNames
  let name ← (← json.get? "name").text?
  let typeName ← json.readOptional "type_name" Json.text?
  some ⟨name, typeName⟩

end Parameter

namespace Symbol

/-- The bound of a line number in bits. -/
def lineBits : Nat := 32

/-- The names of the fields, in order. -/
def fieldNames : List String :=
  ["id", "kind", "name", "filePath", "startLine", "endLine", "language", "visibility", "isAsync",
    "isStatic", "returnType", "parameters", "canThrow", "isPure", "codeSnippet", "tagName",
    "selector", "styleIntents"]

/-- A symbol as an object. -/
def toJson (s : Symbol) : Json :=
  .object ([("id", .string s.id), ("kind", .string s.kind.name), ("name", .string s.name),
      ("filePath", .string s.filePath), ("startLine", Json.ofNat s.startLine),
      ("endLine", Json.ofNat s.endLine)] ++
    Json.optional "language" (s.language.map .string) ++
    Json.optional "visibility" (s.visibility.map fun v => .string v.name) ++
    Json.flag "isAsync" s.isAsync ++
    Json.flag "isStatic" s.isStatic ++
    Json.optional "returnType" (s.returnType.map .string) ++
    Json.listed "parameters" (s.parameters.map Parameter.toJson) ++
    Json.flag "canThrow" s.canThrow ++
    Json.optional "isPure" (s.isPure.map .bool) ++
    Json.optional "codeSnippet" (s.codeSnippet.map .string) ++
    Json.optional "tagName" (s.tagName.map .string) ++
    Json.optional "selector" (s.selector.map .string) ++
    Json.listed "styleIntents" (s.styleIntents.map fun i => .string i.name))

/-- Reads a symbol. Fields with other names are passed over. -/
def ofJson? (json : Json) : Option Symbol := do
  let json ← json.record? fieldNames
  let id ← (← json.get? "id").text?
  let kind ← (← json.get? "kind").choice?.bind SymbolKind.ofName?
  let name ← (← json.get? "name").text?
  let filePath ← (← json.get? "filePath").text?
  let startLine ← (← json.get? "startLine").nat? lineBits
  let endLine ← (← json.get? "endLine").nat? lineBits
  let language ← json.readOptional "language" Json.text?
  let visibility ← json.readOptional "visibility" (·.choice?.bind Visibility.ofName?)
  let isAsync ← json.readOr "isAsync" false Json.bool?
  let isStatic ← json.readOr "isStatic" false Json.bool?
  let returnType ← json.readOptional "returnType" Json.text?
  let parameters ← json.readOr "parameters" [] (Json.readList Parameter.ofJson?)
  let canThrow ← json.readOr "canThrow" false Json.bool?
  let isPure ← json.readOptional "isPure" Json.bool?
  let codeSnippet ← json.readOptional "codeSnippet" Json.text?
  let tagName ← json.readOptional "tagName" Json.text?
  let selector ← json.readOptional "selector" Json.text?
  let styleIntents ← json.readOr "styleIntents" []
    (Json.readList (·.choice?.bind StyleIntent.ofName?))
  some { id, kind, name, filePath, startLine, endLine, language, visibility, isAsync, isStatic,
         returnType, parameters, canThrow, isPure, codeSnippet, tagName, selector, styleIntents }

end Symbol
end SourceAtlas
