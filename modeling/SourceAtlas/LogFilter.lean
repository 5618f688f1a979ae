import SourceAtlas.Options
import SourceAtlas.Regex.Reader

/-! Log filters: directives divided by commas. A directive is a level, a target, or a target and a
span with a field, each with a level behind an equals sign if it has one. The value of a field is a
truth value, a number or a regular expression. -/
namespace SourceAtlas.LogFilter

/-- The parts of a directive that may be wrong: where its field starts and stops in bytes, and the
text of its level. -/
structure Directive where
  field : Option (Nat × Nat) := none
  level : Option (List Char) := none
deriving Repr, DecidableEq

/-- The written names of the levels. -/
def levelNames : List String :=
  ["off", "error", "warn", "info", "debug", "trace"]

/-- Whether a text is a level: nothing, a name in any case, or its number. -/
def isLevel (text : List Char) : Bool :=
  text.isEmpty || levelNames.contains (Text.lower (String.ofList text)) ||
    match RunOptions.number? (String.ofList text) with
    | some number => number < levelNames.length
    | none => false

/-- A text behind its sign. -/
def unsigned : List Char → List Char
  | '+' :: rest | '-' :: rest => rest
  | text => text

/-- Whether a text is a number as it is written: digits around a point, with an exponent if it has
one, or the name of what is no finite number. -/
def isNumber (text : List Char) : Bool :=
  let text := Chars.lower (unsigned text)
  let isMark (c : Char) := c == 'e'
  let figures := (Chars.before isMark text).filter (· != '.')
  let exponent := unsigned ((text.dropWhile (!isMark ·)).drop 1)
  ["inf", "infinity", "nan"].contains (String.ofList text) ||
    (!figures.isEmpty && figures.all Char.isDigit && (Chars.before isMark text).count '.' ≤ 1 &&
      (!text.any isMark || (Chars.digits? exponent).isSome))

/-- Whether a text is the value of a field. -/
def isValue (text : List Char) : Bool :=
  isNumber text || Regex.isValid text

/-- Whether a text is a field: a name, and behind an equals sign its value. What stands behind a
second one is passed over. -/
def isField (text : List Char) : Bool :=
  ((Chars.splitOn '=' text).drop 1).head?.all isValue

/-- What follows a span: nothing, or a level. -/
def behindSpan (field : Option (Nat × Nat)) : List Char → Option Directive
  | [] => some ⟨field, none⟩
  | '=' :: level => some ⟨field, some level⟩
  | _ => none

/-- What follows the field of a span. -/
def behindField (field : Nat × Nat) : List Char → Option Directive
  | ']' :: rest => behindSpan (some field) rest
  | _ => none

/-- A field of a span, which may not be empty. -/
def inField (start position : Nat) : List Char → Option Directive
  | [] => none
  | c :: rest =>
    if c == '\x7d' then
      if start == position then none else behindField (start, position) rest
    else inField start (position + c.utf8Size) rest

/-- The name of a span. -/
def inSpan (position : Nat) : List Char → Option Directive
  | [] => none
  | c :: rest =>
    let behind := position + c.utf8Size
    if c == ']' then behindSpan none rest
    else if c == '\x7b' then inField behind behind rest
    else inSpan behind rest

/-- A target, or a level without one. -/
def inTarget (position : Nat) : List Char → Option Directive
  | [] => some {}
  | c :: rest =>
    if c == '=' then some ⟨none, some rest⟩
    else if c == '[' then inSpan (position + 1) rest
    else inTarget (position + c.utf8Size) rest

/-- Reads a directive without white space around it. -/
def directive? : List Char → Option Directive
  | [] => none
  | c :: rest =>
    if c == '[' then inSpan 1 rest
    else if Chars.isAlphanumeric c || c == '-' || c == ':' || c == '_' then
      inTarget c.utf8Size rest
    else none

/-- Whether a text is a directive. White space around it is passed over, but not when it has a
level. The offsets of the field count from the start of the text, so white space there moves the
field. -/
def isDirective (text : List Char) : Bool :=
  let trimmed := Chars.trim text
  (directive? trimmed).any fun directive =>
    (directive.field.all fun (start, stop) => (Chars.sliceBytes? start stop text).any isField) &&
      directive.level.all fun level => trimmed == text && isLevel level

/-- Whether a text is a filter. Nothing between two commas is no directive. -/
def isValid (text : String) : Bool :=
  (Chars.segments ',' text.toList).all isDirective

/-- The variable that goes before the options. -/
def environmentKey : String := "RUST_LOG"

/-- Checks that there is a filter: the one of the environment, or else that of the options. -/
def check (env : List (String × String)) (level : String) : Except OptionsError Unit :=
  if (env.lookup environmentKey).any isValid || isValid level then .ok ()
  else .error (.invalidLogLevel level)

end SourceAtlas.LogFilter
