import SourceAtlas.Proofs.DigestLines
import SourceAtlas.Proofs.JsonText
import SourceAtlas.Symbol.Json

/-! Symbols read back from what is written of them. A record is said here by its cells, one for each
field with the value that is written for it, if any; looking up a field of the record is looking up
its cell. So it does not matter which fields are left out, as long as reading a missing field gives
what was left out. -/
namespace SourceAtlas.SymbolRecords
open JsonText

/-- The fields that are written for some cells. -/
def written (cells : List (String × Option Json)) : List (String × Json) :=
  cells.flatMap fun cell => Json.optional cell.1 cell.2

theorem lookup_written {cells : List (String × Option Json)} (names : (cells.map (·.1)).Nodup)
    (key : String) : (written cells).lookup key = (cells.lookup key).join := by
  induction cells with
  | nil => rfl
  | cons cell rest ih =>
    obtain ⟨name, value⟩ := cell
    obtain ⟨fresh, names⟩ := List.nodup_cons.mp names
    rw [written, List.flatMap_cons, ← written, List.lookup_append, ih names, List.lookup_cons]
    by_cases same : key = name
    · subst same
      have missing : rest.lookup key = none := by
        refine List.lookup_eq_none_iff.mpr fun cell member => bne_iff_ne.mpr ?_
        rintro rfl
        exact fresh (List.mem_map.mpr ⟨cell, member, rfl⟩)
      cases value <;> simp [Json.optional, missing]
    · have other : (key == name) = false := beq_eq_false_iff_ne.mpr same
      cases value <;> simp [Json.optional, List.lookup_cons, other]

theorem written_names (cells : List (String × Option Json)) :
    (written cells).map (·.1) = (cells.filter (·.2.isSome)).map (·.1) := by
  induction cells with
  | nil => rfl
  | cons cell rest ih =>
    obtain ⟨name, value⟩ := cell
    rw [written, List.flatMap_cons, ← written, List.map_append, ih]
    cases value <;> rfl

/-- A record is a plain value when what is written in its cells is. -/
theorem written_plain {cells : List (String × Option Json)} (names : (cells.map (·.1)).Nodup)
    (each : ∀ cell ∈ cells, ∀ value ∈ cell.2, Plain value) : Plain (.object (written cells)) := by
  refine .object ?_ ?_
  · rw [written_names]
    exact names.sublist (List.filter_sublist.map _)
  · intro field member
    obtain ⟨⟨name, value⟩, held, said⟩ := List.mem_flatMap.mp member
    cases value with
    | none => cases said
    | some value =>
      obtain rfl := List.mem_singleton.mp said
      exact each _ held value rfl

section Reading

/-- One field after another: what has been read is handed to the rest. -/
private theorem next {found : Option α} {rest : α → Option β} (held : found = some a)
    (goesOn : rest a = some b) : (found >>= rest) = some b := by
  rw [held]
  exact goesOn

variable {json : Json} {key : String}

/-- A value that is written when there is one reads back, and its absence does. -/
theorem readOptional_written {value : Option α} {write : α → Json} {read : Json → Option α}
    (held : json.get? key = value.map write) (back : ∀ a, read (write a) = some a)
    (said : ∀ a, write a ≠ .null) : json.readOptional key read = some value := by
  unfold Json.readOptional
  rw [held]
  cases value with
  | none => rfl
  | some a =>
    rw [Option.map_some]
    split
    · rename_i absent
      cases absent
    · rename_i null
      exact absurd (Option.some.inj null) (said a)
    · rename_i value _ same
      cases same
      rw [back, Option.map_some]

/-- A flag that is written when it is set reads back. -/
theorem readOr_flag {flag : Bool}
    (held : json.get? key = if flag then some (.bool true) else none) :
    json.readOr key false Json.bool? = some flag := by
  unfold Json.readOr
  rw [held]
  cases flag <;> rfl

theorem mapM_written {write : α → Json} {read : Json → Option α}
    (back : ∀ a, read (write a) = some a) (items : List α) :
    (items.map write).mapM read = some items := by
  induction items with
  | nil => rfl
  | cons item rest ih => simp [back, ih]

/-- A list that is written when it has items reads back. -/
theorem readOr_listed {items : List α} {write : α → Json} {read : Json → Option α}
    (held : json.get? key = if items.isEmpty then none else some (.array (items.map write)))
    (back : ∀ a, read (write a) = some a) :
    json.readOr key [] (Json.readList read) = some items := by
  unfold Json.readOr
  rw [held]
  cases items with
  | nil => rfl
  | cons item rest => exact mapM_written back (item :: rest)

end Reading

private theorem flag_eq (key : String) (value : Bool) :
    Json.flag key value = Json.optional key (if value then some (.bool true) else none) := by
  cases value <;> rfl

private theorem listed_eq (key : String) (items : List Json) :
    Json.listed key items =
      Json.optional key (if items.isEmpty then none else some (.array items)) := by
  unfold Json.listed
  split <;> rfl

/-- The cells of a parameter. -/
def parameterCells (p : Parameter) : List (String × Option Json) :=
  [("name", some (.string p.name)), ("type_name", p.typeName.map .string)]

private theorem parameter_written (p : Parameter) :
    p.toJson = .object (written (parameterCells p)) := by
  simp [Parameter.toJson, written, parameterCells, Json.optional]

private theorem parameter_names (p : Parameter) :
    ((parameterCells p).map (·.1)).Nodup :=
  (by decide : Parameter.fieldNames.Nodup)

/-- A parameter reads back. -/
theorem parameter_reads (p : Parameter) : Parameter.ofJson? p.toJson = some p := by
  have record : p.toJson.record? Parameter.fieldNames = some p.toJson := rfl
  have get (key : String) : p.toJson.get? key = ((parameterCells p).lookup key).join := by
    rw [parameter_written]
    exact lookup_written (parameter_names p) key
  have name : p.toJson.get? "name" = some (.string p.name) := get "name"
  have typeName : p.toJson.readOptional "type_name" Json.text? = some p.typeName :=
    readOptional_written (get "type_name") (fun _ => rfl) (by simp)
  simp [Parameter.ofJson?, record, name, typeName, Json.text?]

private theorem sure_plain (plain : Plain value) : ∀ v ∈ some value, Plain v := by
  rintro _ ⟨⟩
  exact plain

private theorem mapped_plain {write : α → Json} (each : ∀ a, Plain (write a)) (value : Option α) :
    ∀ v ∈ value.map write, Plain v := by
  intro v said
  obtain ⟨a, -, rfl⟩ := Option.map_eq_some_iff.mp said
  exact each a

private theorem flag_plain (flag : Bool) :
    ∀ v ∈ if flag then some (Json.bool true) else none, Plain v := by
  cases flag with
  | false => nofun
  | true => exact sure_plain (.bool true)

private theorem listed_plain {write : α → Json} (each : ∀ a, Plain (write a)) (items : List α) :
    ∀ v ∈ if items.isEmpty then none else some (Json.array (items.map write)), Plain v := by
  cases items with
  | nil => nofun
  | cons item rest =>
    refine sure_plain (.array fun value member => ?_)
    obtain ⟨a, -, rfl⟩ := List.mem_map.mp member
    exact each a

private theorem parameter_plain (p : Parameter) : Plain p.toJson := by
  rw [parameter_written]
  refine written_plain (parameter_names p) ?_
  simp only [parameterCells, List.forall_mem_cons]
  exact ⟨sure_plain (.string _), mapped_plain .string _, nofun⟩

/-- The cells of a symbol. -/
def symbolCells (s : Symbol) : List (String × Option Json) :=
  [("id", some (.string s.id)), ("kind", some (.string s.kind.name)),
    ("name", some (.string s.name)), ("filePath", some (.string s.filePath)),
    ("startLine", some (.ofNat s.startLine)), ("endLine", some (.ofNat s.endLine)),
    ("language", s.language.map .string),
    ("visibility", s.visibility.map fun v => .string v.name),
    ("isAsync", if s.isAsync then some (.bool true) else none),
    ("isStatic", if s.isStatic then some (.bool true) else none),
    ("returnType", s.returnType.map .string),
    ("parameters", if s.parameters.isEmpty then none
      else some (.array (s.parameters.map Parameter.toJson))),
    ("canThrow", if s.canThrow then some (.bool true) else none),
    ("isPure", s.isPure.map .bool), ("codeSnippet", s.codeSnippet.map .string),
    ("tagName", s.tagName.map .string), ("selector", s.selector.map .string),
    ("styleIntents", if s.styleIntents.isEmpty then none
      else some (.array (s.styleIntents.map fun i => .string i.name)))]

private theorem symbol_written (s : Symbol) : s.toJson = .object (written (symbolCells s)) := by
  simp [Symbol.toJson, written, symbolCells, flag_eq, listed_eq, Json.optional]

private theorem symbol_names (s : Symbol) : ((symbolCells s).map (·.1)).Nodup :=
  (by decide : Symbol.fieldNames.Nodup)

private theorem get_symbol (s : Symbol) (key : String) :
    s.toJson.get? key = ((symbolCells s).lookup key).join := by
  rw [symbol_written]
  exact lookup_written (symbol_names s) key

private theorem visibility_ofName (v : Visibility) : Visibility.ofName? v.name = some v := by
  cases v <;> decide +kernel

private theorem intent_ofName (i : StyleIntent) : StyleIntent.ofName? i.name = some i := by
  cases i <;> decide +kernel

private theorem nat_ofNat (small : n < 2 ^ 32) : (Json.ofNat n).nat? Symbol.lineBits = some n := by
  have bound : n < Nat.pow 2 32 := small
  simp [Json.nat?, Json.ofNat, Json.number?, JsonNumber.toNat?, JsonNumber.ofNat, Symbol.lineBits,
    bound]

private theorem symbol_plain (s : Symbol) : Plain s.toJson := by
  rw [symbol_written]
  refine written_plain (symbol_names s) ?_
  simp only [symbolCells, List.forall_mem_cons]
  exact ⟨sure_plain (.string _), sure_plain (.string _), sure_plain (.string _),
    sure_plain (.string _), sure_plain (.count _), sure_plain (.count _), mapped_plain .string _,
    mapped_plain (fun _ => .string _) _, flag_plain _, flag_plain _, mapped_plain .string _,
    listed_plain parameter_plain _, flag_plain _, mapped_plain .bool _, mapped_plain .string _,
    mapped_plain .string _, mapped_plain .string _, listed_plain (fun _ => .string _) _, nofun⟩

/-- Whether a field says something about a symbol: an absent option, an unset flag and an empty list
say nothing. -/
def states (s : Symbol) : String → Bool
  | "language" => s.language.isSome
  | "visibility" => s.visibility.isSome
  | "isAsync" => s.isAsync
  | "isStatic" => s.isStatic
  | "returnType" => s.returnType.isSome
  | "parameters" => !s.parameters.isEmpty
  | "canThrow" => s.canThrow
  | "isPure" => s.isPure.isSome
  | "codeSnippet" => s.codeSnippet.isSome
  | "tagName" => s.tagName.isSome
  | "selector" => s.selector.isSome
  | "styleIntents" => !s.styleIntents.isEmpty
  | _ => true

private theorem flag_isSome (flag : Bool) (value : Json) :
    (if flag then some value else none).isSome = flag := by
  cases flag <;> rfl

private theorem listed_isSome (items : List α) (value : Json) :
    (if items.isEmpty then none else some value).isSome = !items.isEmpty := by
  cases items <;> rfl

private theorem cell_states (s : Symbol) :
    ∀ cell ∈ symbolCells s, cell.2.isSome = states s cell.1 := by
  simp only [symbolCells, List.forall_mem_cons, states, Option.isSome_some, Option.isSome_map,
    flag_isSome, listed_isSome, true_and]
  simp

/-- Exactly the fields that say something are written, in the order of the fields. -/
theorem symbol_fields (s : Symbol) :
    ∃ fields, s.toJson = .object fields ∧ fields.map (·.1) = Symbol.fieldNames.filter (states s) := by
  refine ⟨_, symbol_written s, ?_⟩
  have names : Symbol.fieldNames = (symbolCells s).map (·.1) := rfl
  rw [written_names, names, List.filter_map, List.filter_congr (cell_states s)]
  rfl

/-- A symbol reads back from the object that is written of it. -/
theorem symbol_reads {s : Symbol} (first : s.startLine < 2 ^ 32) (last : s.endLine < 2 ^ 32) :
    Symbol.ofJson? s.toJson = some s := by
  have record : s.toJson.record? Symbol.fieldNames = some s.toJson := rfl
  have get := get_symbol s
  have id : s.toJson.get? "id" = some (.string s.id) := get "id"
  have kind : s.toJson.get? "kind" = some (.string s.kind.name) := get "kind"
  have name : s.toJson.get? "name" = some (.string s.name) := get "name"
  have filePath : s.toJson.get? "filePath" = some (.string s.filePath) := get "filePath"
  have startLine : s.toJson.get? "startLine" = some (.ofNat s.startLine) := get "startLine"
  have endLine : s.toJson.get? "endLine" = some (.ofNat s.endLine) := get "endLine"
  have text {key : String} {value : Option String} (held : s.toJson.get? key = value.map .string) :
      s.toJson.readOptional key Json.text? = some value :=
    readOptional_written held (fun _ => rfl) (by simp)
  have visibility : s.toJson.readOptional "visibility" (·.choice?.bind Visibility.ofName?) =
      some s.visibility :=
    readOptional_written (get "visibility") visibility_ofName (by simp)
  have isPure : s.toJson.readOptional "isPure" Json.bool? = some s.isPure :=
    readOptional_written (get "isPure") (fun _ => rfl) (by simp)
  have parameters : s.toJson.readOr "parameters" [] (Json.readList Parameter.ofJson?) =
      some s.parameters :=
    readOr_listed (get "parameters") parameter_reads
  have intents : s.toJson.readOr "styleIntents" []
      (Json.readList (·.choice?.bind StyleIntent.ofName?)) = some s.styleIntents :=
    readOr_listed (get "styleIntents") intent_ofName
  have isAsync : s.toJson.readOr "isAsync" false Json.bool? = some s.isAsync :=
    readOr_flag (get "isAsync")
  have isStatic : s.toJson.readOr "isStatic" false Json.bool? = some s.isStatic :=
    readOr_flag (get "isStatic")
  have canThrow : s.toJson.readOr "canThrow" false Json.bool? = some s.canThrow :=
    readOr_flag (get "canThrow")
  have named : (Json.string s.kind.name).choice?.bind SymbolKind.ofName? = some s.kind :=
    DigestLines.symbolKind_ofName s.kind
  unfold Symbol.ofJson?
  exact next record <| next id <| next rfl <| next kind <| next named <| next name <| next rfl <|
    next filePath <| next rfl <| next startLine <| next (nat_ofNat first) <| next endLine <|
    next (nat_ofNat last) <| next (text (get "language")) <| next visibility <| next isAsync <|
    next isStatic <| next (text (get "returnType")) <| next parameters <| next canThrow <|
    next isPure <| next (text (get "codeSnippet")) <| next (text (get "tagName")) <|
    next (text (get "selector")) <| next intents rfl

/-- Every symbol reads back from what is written of it, as an object and from both written forms of
that object, although fields that say nothing are left out. Only its line numbers have to fit the
thirty-two bits that a line number is read with. -/
theorem symbol_reads_back (s : Symbol) (first : s.startLine < 2 ^ 32) (last : s.endLine < 2 ^ 32) :
    Symbol.ofJson? s.toJson = some s ∧
      (Json.parse? s.toJson.compact).bind Symbol.ofJson? = some s ∧
      (Json.parse? s.toJson.pretty).bind Symbol.ofJson? = some s ∧
      ∃ fields, s.toJson = .object fields ∧
        fields.map (·.1) = Symbol.fieldNames.filter (states s) := by
  have read := symbol_reads first last
  refine ⟨read, ?_, ?_, symbol_fields s⟩
  · rw [parse_compact (symbol_plain s), Option.bind_some, read]
  · rw [parse_pretty (symbol_plain s), Option.bind_some, read]

/-- A method that is known not to be pure, which is not the same as not knowing; its name needs
escapes, one of its parameters has no type, and its last line is the greatest there is. -/
def impureMethod : Symbol where
  id := "a.ts#A.m"
  kind := .method
  name := "m\t\"\\\x01é"
  filePath := "a.ts"
  startLine := 1
  endLine := 4294967295
  visibility := some .protectedAccess
  isStatic := true
  parameters := [⟨"x", some "number"⟩, ⟨"y", none⟩]
  isPure := some false

theorem impure_method_reads_back :
    impureMethod.startLine < 2 ^ 32 ∧ impureMethod.endLine < 2 ^ 32 ∧
      Symbol.ofJson? impureMethod.toJson = some impureMethod ∧
      (Json.parse? impureMethod.toJson.compact).bind Symbol.ofJson? = some impureMethod ∧
      (Json.parse? impureMethod.toJson.pretty).bind Symbol.ofJson? = some impureMethod ∧
      ∃ fields, impureMethod.toJson = .object fields ∧
        fields.map (·.1) = Symbol.fieldNames.filter (states impureMethod) := by
  have first : impureMethod.startLine < 2 ^ 32 := by decide
  have last : impureMethod.endLine < 2 ^ 32 := by decide
  exact ⟨first, last, symbol_reads_back impureMethod first last⟩

end SourceAtlas.SymbolRecords
