import SourceAtlas.Chars.Basic
import SourceAtlas.Json.Basic

/-! JSON text. A value has two written forms: everything on one line, or one element to a line with
two spaces for each level of nesting. The reader takes any text that stands for a value. -/
namespace SourceAtlas.Json

/-- One character of a string; quotes, backslashes and control characters are escaped. -/
def escape (c : Char) : List Char :=
  if c == '\x22' then ['\\', '\x22']
  else if c == '\\' then ['\\', '\\']
  else if c == '\n' then ['\\', 'n']
  else if c == '\r' then ['\\', 'r']
  else if c == '\t' then ['\\', 't']
  else if c == '\x08' then ['\\', 'b']
  else if c == '\x0c' then ['\\', 'f']
  else if c.toNat < 0x20 then
    ['\\', 'u', '0', '0', Chars.hexDigit (c.toNat / 16), Chars.hexDigit (c.toNat % 16)]
  else [c]

/-- A string with its quotes. -/
def quote (s : String) : String :=
  "\"" ++ String.ofList (s.toList.flatMap escape) ++ "\""

mutual

/-- The value on one line. -/
def compact : Json → String
  | null => "null"
  | bool value => if value then "true" else "false"
  | number value => value.text
  | string value => quote value
  | array items => "[" ++ ",".intercalate (compactItems items) ++ "]"
  | object fields => "\x7b" ++ ",".intercalate (compactFields fields) ++ "\x7d"

/-- The items of an array, each on one line. -/
def compactItems : List Json → List String
  | [] => []
  | item :: rest => compact item :: compactItems rest

/-- The fields of an object, each on one line. -/
def compactFields : List (String × Json) → List String
  | [] => []
  | (key, value) :: rest => (quote key ++ ":" ++ compact value) :: compactFields rest

end

/-- Elements one to a line between two brackets, or nothing between them when there are none. -/
def block (depth : Nat) (opening closing : String) (elements : List String) : String :=
  let indent (levels : Nat) := "\n" ++ String.ofList (List.replicate (2 * levels) ' ')
  if elements.isEmpty then opening ++ closing
  else
    let inside := ",".intercalate (elements.map (indent (depth + 1) ++ ·))
    opening ++ inside ++ indent depth ++ closing

mutual

/-- The value with one element to a line, `depth` levels inside others. -/
def prettyAt (depth : Nat) : Json → String
  | array items => block depth "[" "]" (prettyItems (depth + 1) items)
  | object fields => block depth "\x7b" "\x7d" (prettyFields (depth + 1) fields)
  | value => compact value

/-- The items of an array at `depth` levels. -/
def prettyItems (depth : Nat) : List Json → List String
  | [] => []
  | item :: rest => prettyAt depth item :: prettyItems depth rest

/-- The fields of an object at `depth` levels. -/
def prettyFields (depth : Nat) : List (String × Json) → List String
  | [] => []
  | (key, value) :: rest => (quote key ++ ": " ++ prettyAt depth value) :: prettyFields depth rest

end

/-- The value with one element to a line. -/
def pretty (json : Json) : String :=
  prettyAt 0 json

/-! Reading JSON text. Characters are gathered into tokens and tokens into values by two machines
that take one step for each character and for each token, so reading ends with the text and nested
values wait on a list of open brackets. -/

/-- A bracket, comma or colon; the text of a string; or a run of other characters. -/
inductive Token where
  | mark (c : Char)
  | text (value : String)
  | bare (lexeme : List Char)
deriving Repr, DecidableEq

/-- Where the text has got to. Gathered characters are in reverse. -/
inductive Scan where
  | between
  | bare (gathered : List Char)
  | quoted (gathered : List Char)
  | escaped (gathered : List Char)
  | hex (gathered : List Char) (digits value : Nat) (lead : Option Nat)
  | second (gathered : List Char) (lead : Nat)
  | secondEscape (gathered : List Char) (lead : Nat)

/-- A scan with the tokens found so far, in reverse. -/
structure Scanner where
  scan : Scan
  tokens : List Token

def isMark (c : Char) : Bool :=
  c == '\x7b' || c == '\x7d' || c == '[' || c == ']' || c == ',' || c == ':'

def isSpace (c : Char) : Bool :=
  c == ' ' || c == '\n' || c == '\r' || c == '\t'

/-- A character outside strings and bare runs. -/
def Scanner.fresh (tokens : List Token) (c : Char) : Scanner :=
  if isSpace c then ⟨.between, tokens⟩
  else if c == '\x22' then ⟨.quoted [], tokens⟩
  else if isMark c then ⟨.between, .mark c :: tokens⟩
  else ⟨.bare [c], tokens⟩

/-- The end of a four-digit escape: a character, or the first half of one. -/
def closeHex (gathered : List Char) (value : Nat) (lead : Option Nat) : Option Scan :=
  let low := 0xDC00 ≤ value && value ≤ 0xDFFF
  match lead with
  | some high =>
    if low then
      some (.quoted (Char.ofNat (0x10000 + (high - 0xD800) * 0x400 + (value - 0xDC00)) :: gathered))
    else none
  | none =>
    if 0xD800 ≤ value && value ≤ 0xDBFF then some (.second gathered value)
    else if low then none
    else some (.quoted (Char.ofNat value :: gathered))

/-- What a one-letter escape stands for. -/
def escapedChar? (c : Char) : Option Char :=
  if c == 'n' then some '\n' else if c == 't' then some '\t' else if c == 'r' then some '\r'
  else if c == 'b' then some '\x08' else if c == 'f' then some '\x0c'
  else if c == '\\' || c == '/' || c == '\x22' then some c else none

/-- One character of the text. -/
def Scanner.step (s : Scanner) (c : Char) : Option Scanner :=
  match s.scan with
  | .between => some (Scanner.fresh s.tokens c)
  | .bare gathered =>
    if isSpace c || isMark c || c == '\x22' then
      some (Scanner.fresh (.bare gathered.reverse :: s.tokens) c)
    else some ⟨.bare (c :: gathered), s.tokens⟩
  | .quoted gathered =>
    if c == '\x22' then some ⟨.between, .text (String.ofList gathered.reverse) :: s.tokens⟩
    else if c == '\\' then some ⟨.escaped gathered, s.tokens⟩
    else if c.toNat < 0x20 then none
    else some ⟨.quoted (c :: gathered), s.tokens⟩
  | .escaped gathered =>
    if c == 'u' then some ⟨.hex gathered 0 0 none, s.tokens⟩
    else (escapedChar? c).map fun e => ⟨.quoted (e :: gathered), s.tokens⟩
  | .hex gathered digits value lead => do
    let digit ← Chars.hexValue? c
    let value := value * 16 + digit
    if digits == 3 then (closeHex gathered value lead).map fun scan => ⟨scan, s.tokens⟩
    else some ⟨.hex gathered (digits + 1) value lead, s.tokens⟩
  | .second gathered lead =>
    if c == '\\' then some ⟨.secondEscape gathered lead, s.tokens⟩ else none
  | .secondEscape gathered lead =>
    if c == 'u' then some ⟨.hex gathered 0 0 (some lead), s.tokens⟩ else none

/-- The tokens of a text, unless a string is malformed or left open. -/
def tokens? (text : String) : Option (List Token) :=
  match text.toList.foldlM Scanner.step ⟨.between, []⟩ with
  | some ⟨.between, tokens⟩ => some tokens.reverse
  | some ⟨.bare gathered, tokens⟩ => some (.bare gathered.reverse :: tokens).reverse
  | _ => none

/-- A number: digits without needless leading zeros, then perhaps a fraction and an exponent. -/
def numberOf? (lexeme : List Char) : Option JsonNumber := do
  let (negative, unsigned) := match lexeme with
    | '-' :: rest => (true, rest)
    | cs => (false, cs)
  let isPower := fun (c : Char) => c == 'e' || c == 'E'
  let main := unsigned.takeWhile (fun c => !isPower c)
  let power := unsigned.dropWhile (fun c => !isPower c)
  let whole := main.takeWhile (· != '.')
  let fraction := main.dropWhile (· != '.')
  let integer ← Chars.digits? whole
  if whole.length > 1 && whole.head? == some '0' then none
  let places ← match fraction with
    | [] => some []
    | _ :: places => (Chars.digits? places).map fun _ => places
  let exponent : Int ← match power with
    | [] => some 0
    | _ :: '-' :: rest => (Chars.digits? rest).map fun n => -(n : Int)
    | _ :: '+' :: rest => (Chars.digits? rest).map fun n => (n : Int)
    | _ :: rest => (Chars.digits? rest).map fun n => (n : Int)
  let digits := places.foldl (fun n c => 10 * n + (c.toNat - 48)) integer
  some ⟨negative, ⟨digits, exponent - places.length⟩, fraction.isEmpty && power.isEmpty⟩

/-- The value of a bare run: a number or one of three words. -/
def bare? (lexeme : List Char) : Option Json :=
  match String.ofList lexeme with
  | "null" => some .null
  | "true" => some (.bool true)
  | "false" => some (.bool false)
  | _ => (numberOf? lexeme).map .number

/-- An open bracket with what it holds so far, in reverse; an object also has the key whose value
comes next. -/
inductive Frame where
  | array (items : List Json)
  | object (fields : List (String × Json)) (key : String)

/-- What may come next. -/
inductive Expect where
  | value
  | valueOrClose
  | keyOrClose
  | key
  | colon
  | commaOrClose

/-- A partly read value. -/
structure Builder where
  frames : List Frame
  expect : Expect
  result : Option Json

/-- Adds a finished value to the innermost open bracket. -/
def Builder.place (b : Builder) (value : Json) : Builder :=
  match b.frames with
  | [] => ⟨[], .commaOrClose, some value⟩
  | .array items :: rest => ⟨.array (value :: items) :: rest, .commaOrClose, b.result⟩
  | .object fields key :: rest =>
    ⟨.object ((key, value) :: fields.filter (·.1 != key)) key :: rest, .commaOrClose, b.result⟩

/-- Closes the innermost open bracket. -/
def Builder.close? (b : Builder) (bracket : Char) : Option Builder :=
  match b.frames with
  | .array items :: rest =>
    if bracket == ']' then some (Builder.place { b with frames := rest } (.array items.reverse))
    else none
  | .object fields _ :: rest =>
    if bracket == '\x7d' then
      some (Builder.place { b with frames := rest } (.object fields.reverse))
    else none
  | [] => none

/-- A token where a value is due. -/
def Builder.value? (b : Builder) : Token → Option Builder
  | .text value => some (b.place (.string value))
  | .bare lexeme => (bare? lexeme).map b.place
  | .mark c =>
    if c == '[' then some { b with frames := .array [] :: b.frames, expect := .valueOrClose }
    else if c == '\x7b' then
      some { b with frames := .object [] "" :: b.frames, expect := .keyOrClose }
    else none

/-- A token where a key is due. -/
def Builder.key? (b : Builder) : Token → Option Builder
  | .text key => match b.frames with
    | .object fields _ :: rest =>
      some { b with frames := .object fields key :: rest, expect := .colon }
    | _ => none
  | _ => none

/-- A token behind a value: the innermost bracket goes on or closes. -/
def Builder.next? (b : Builder) : Token → Option Builder
  | .mark ',' => match b.frames with
    | .array _ :: _ => some { b with expect := .value }
    | .object _ _ :: _ => some { b with expect := .key }
    | [] => none
  | .mark c => b.close? c
  | _ => none

/-- One token of the text. -/
def Builder.step (b : Builder) (token : Token) : Option Builder :=
  match b.expect with
  | .value => b.value? token
  | .valueOrClose => if token == .mark ']' then b.close? ']' else b.value? token
  | .keyOrClose => if token == .mark '\x7d' then b.close? '\x7d' else b.key? token
  | .key => b.key? token
  | .colon => if token == .mark ':' then some { b with expect := .value } else none
  | .commaOrClose => b.next? token

/-- The value written in `text`. -/
def parse? (text : String) : Option Json := do
  let tokens ← tokens? text
  let built ← tokens.foldlM Builder.step ⟨[], .value, none⟩
  if built.frames.isEmpty then built.result else none

end SourceAtlas.Json
