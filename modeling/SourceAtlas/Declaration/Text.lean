import SourceAtlas.Symbol.Basic
import SourceAtlas.SyntaxTree

/-! What the text of a declaration says about it: an excerpt to show, whether something callable
looks pure, and what a style rule is for. -/

/-! Excerpts of declarations. A callable or a container shows what stands before its body, a value
shows what it is set to, and everything else shows its first line. -/
namespace SourceAtlas.Snippet

/-- The most bytes an excerpt may take. -/
def maxBytes : Nat := 200

/-- What follows the first equals sign that stands alone, so is part neither of a comparison nor of
an arrow nor of a defining sign. `previous` is the character before the text. -/
def initializer? (previous : Option Char) : List Char → Option (List Char)
  | [] => none
  | c :: rest =>
    let bound := previous.any ("=!<>:".toList.contains ·) || rest.head?.any ("=>".toList.contains ·)
    if c == '=' && !bound then some rest else initializer? (some c) rest

/-- What stands before the opening brace, or the first line when there is none. -/
def beforeBrace (cs : List Char) : List Char :=
  match Chars.cut? ['\x7b'] cs with
  | some (head, _) => head
  | none => Text.firstLine cs

/-- The part of a declaration that is worth showing. `body` is the byte offset of its body; an
offset that does not stand between two characters of the text counts as none. -/
def excerpt (kind : SymbolKind) (cs : List Char) (body : Option Nat) : List Char :=
  match kind with
  | .arrowFunction => match Chars.cut? ['=', '>'] cs with
    | some (head, _) => head ++ ['=', '>']
    | none => Text.firstLine cs
  | .binding | .constant | .static | .field | .property =>
    (initializer? none cs).getD (Text.firstLine cs)
  | .styleRule | .markupElement => Text.firstLine cs
  | _ => (body.bind (Chars.takeBytes? · cs)).getD (beforeBrace cs)

/-- White space is squeezed, and colons at the end are dropped. -/
def clean (cs : List Char) : List Char :=
  Chars.trimEnd (Chars.dropTail (· == ':') (Chars.collapse cs))

/-- The excerpt of a declaration on one line, cut between two characters when it is too long.
Nothing when there is nothing to show. -/
def ofDeclaration (kind : SymbolKind) (text : String) (body : Option Nat) : Option String :=
  let shown := clean (excerpt kind text.toList body)
  if shown.isEmpty then none else some (String.ofList (Chars.fitBytes maxBytes shown))

end SourceAtlas.Snippet

/-! A textual guess whether something callable has side effects. It looks for signs such as an
assignment to a member, output, clocks or randomness, and sees nothing that happens inside the
functions that are called. -/
namespace SourceAtlas.Purity

/-- One step of a sign. -/
inductive Step where
  | oneOf (texts : List String)
  | blanks
  | someBlanks
  | wordChar
  | wordChars
  | wordEnd
  | letter
  | notEquals
deriving Repr, DecidableEq

/-- What may be left of a text behind one step. -/
def Step.advance (step : Step) (cs : List Char) : List (List Char) :=
  match step with
  | .oneOf texts => texts.filterMap fun text => text.toList.isPrefixOf? cs
  | .blanks => [cs.dropWhile Chars.isBlank]
  | .someBlanks => if cs.head?.any Chars.isBlank then [cs.dropWhile Chars.isBlank] else []
  | .wordChar => if cs.head?.any Chars.isWordChar then [cs.drop 1] else []
  | .wordChars => [cs.dropWhile Chars.isWordChar]
  | .wordEnd => if cs.head?.any Chars.isWordChar then [] else [cs]
  | .letter => if cs.head?.any (fun c => c.isAlpha || c == '_') then [cs.drop 1] else []
  | .notEquals => if cs.head? == some '=' then [] else [cs.drop 1]

/-- Whether a text begins with the steps. -/
def begins : List Step → List Char → Bool
  | [], _ => true
  | step :: steps, cs => (step.advance cs).any (begins steps)

/-- The signs of a side effect. Each begins with a letter at the start of a word. -/
def signs : List (List Step) := [
  [.oneOf ["this", "self"], .blanks, .oneOf ["."], .blanks, .letter, .wordChars, .blanks,
    .oneOf ["=", "-=", "+=", "*=", "/=", "%=", "|=", "&="], .notEquals],
  [.oneOf ["console", "document", "window", "localStorage", "sessionStorage", "process"], .blanks,
    .oneOf ["."]],
  [.oneOf ["print", "println", "printf", "eprintln", "puts", "echo"], .wordEnd],
  [.oneOf ["fmt.Print", "fmt.Fprint"]],
  [.oneOf ["fetch", "open", "write", "writeln", "setTimeout", "setInterval"], .blanks,
    .oneOf ["("]],
  [.oneOf ["global", "nonlocal"], .someBlanks, .wordChar],
  [.oneOf ["static"], .someBlanks, .oneOf ["mut"], .wordEnd],
  [.oneOf ["Math.random", "Date.now"], .wordEnd],
  [.oneOf ["random."], .wordChar],
  [.oneOf ["new"], .someBlanks, .oneOf ["Date"], .wordEnd],
  [.oneOf ["fs.", "os.", "sys.", "io."], .wordChar],
  [.oneOf ["std::fs::", "std::io::", "std::env::", "std::process::"]]]

/-- Whether a sign stands somewhere at the start of a word; `inWord` says that the character before
the text belongs to a word. -/
def showsEffect (inWord : Bool) : List Char → Bool
  | [] => false
  | c :: rest =>
    if !inWord && signs.any (begins · (c :: rest)) then true
    else showsEffect (Chars.isWordChar c) rest

/-- Whether a declaration looks pure; nothing is said of what is not callable. Asynchronous code is
never pure. -/
def guess (kind : SymbolKind) (isAsync : Bool) (text : String) : Option Bool :=
  if kind.isCallable then some (!isAsync && !showsEffect false text.toList) else none

end SourceAtlas.Purity

/-! What the properties of a style rule affect. A property belongs to an intent by its full name, or
by the word it starts with. -/
namespace SourceAtlas.StyleIntent

/-- Whether the text behind a stem is a hyphen and more small letters and hyphens. -/
def isTail : List Char → Bool
  | '-' :: rest => !rest.isEmpty && rest.all fun c => c.isLower || c == '-'
  | _ => false

/-- The properties of an intent: whole names, stems that may stand alone or with more words, and
stems that need more words. -/
structure Vocabulary where
  names : List String
  stems : List String
  leads : List String

/-- Whether a property is in the vocabulary. -/
def Vocabulary.has (v : Vocabulary) (property : String) : Bool :=
  let continues (stem : String) := (stem.toList.isPrefixOf? property.toList).any isTail
  v.names.contains property || v.stems.contains property || v.stems.any continues ||
    v.leads.any continues

/-- The properties of each intent. -/
def vocabulary : StyleIntent → Vocabulary
  | layout => {
      names := ["display", "position", "top", "right", "bottom", "left", "float", "clear",
        "z-index", "overflow", "overflow-x", "overflow-y", "width", "height", "min-width",
        "min-height", "max-width", "max-height", "box-sizing", "gap", "row-gap", "column-gap",
        "order"]
      stems := ["inset", "margin", "padding", "flex", "grid"]
      leads := ["align", "justify", "place"] }
  | typography => {
      names := ["line-height", "letter-spacing", "word-spacing", "white-space", "word-break",
        "vertical-align", "direction"]
      stems := ["font"]
      leads := ["text"] }
  | appearance => {
      names := ["color", "box-shadow", "text-shadow", "opacity", "filter", "visibility", "cursor",
        "fill", "stroke"]
      stems := ["background", "border", "outline"]
      leads := [] }

/-- The intents of a list of properties, in order and each once. White space around a property and
the case of its letters do not matter. -/
def ofProperties (properties : List String) : List StyleIntent :=
  let known := properties.map fun property => Text.lower (Text.trim property)
  all.filter fun intent => known.any intent.vocabulary.has

/-- The intents of a rule: those of the property names declared in its block. -/
def ofRule (t : SyntaxTree) (rule : Nat) : List StyleIntent :=
  match t.namedChild? (· == "block") rule with
  | none => []
  | some block =>
    let declarations := (t.namedChildren block).filter fun child => t.kind child == "declaration"
    ofProperties (declarations.filterMap fun declaration =>
      (t.namedChild? (· == "property_name") declaration).map t.nodeText)

end SourceAtlas.StyleIntent
