import SourceAtlas.Glob.Basic

/-! Reading globs. Characters are gathered into symbols first, so that classes and escapes are out
of the way when stars and groups are read. -/
namespace SourceAtlas.Glob

/-- Why a text is no glob. -/
inductive Fault where
  | unclosedClass
  | invalidRange (low high : Char)
  | unopenedGroup
  | unclosedGroup
  | danglingEscape
deriving Repr, DecidableEq

/-- The text of the fault. -/
def Fault.message : Fault → String
  | unclosedClass => "unclosed character class; missing ']'"
  | invalidRange low high =>
    "invalid range; '" ++ String.singleton low ++ "' > '" ++ String.singleton high ++ "'"
  | unopenedGroup =>
    "unopened alternate group; missing '\x7b' (maybe escape '\x7d' with '[\x7d]'?)"
  | unclosedGroup =>
    "unclosed alternate group; missing '\x7d' (maybe escape '\x7b' with '[\x7b]'?)"
  | danglingEscape => "dangling '\\'"

/-- A symbol of a glob. -/
inductive Symbol where
  | question
  | star
  | opening
  | closing
  | comma
  | literal (c : Char) (escaped : Bool)
  | class (negated : Bool) (ranges : List (Char × Char))
deriving Repr, DecidableEq

/-- An open class: its ranges in reverse, whether nothing was read yet, and whether a hyphen waits
for the end of a range. -/
structure OpenClass where
  negated : Bool
  ranges : List (Char × Char)
  first : Bool
  waiting : Bool

/-- Where the text has got to. -/
inductive Mode where
  | plain
  | escape
  | classStart
  | inClass (c : OpenClass)

/-- The symbols read so far, and the characters behind the bracket that opened the last class, both
in reverse. With plain brackets no class is opened. -/
structure Scanner where
  mode : Mode := .plain
  symbols : List Symbol := []
  opened : List Char := []
  plainBrackets : Bool := false

/-- A character of a class. -/
def OpenClass.add (o : OpenClass) (c : Char) : Except Fault OpenClass :=
  if o.waiting then
    match o.ranges with
    | (low, _) :: rest =>
      if c < low then .error (.invalidRange low c)
      else .ok { o with ranges := (low, c) :: rest, first := false, waiting := false }
    | [] => .ok { o with ranges := [(c, c)], first := false, waiting := false }
  else if c == '-' && !o.first then .ok { o with waiting := true }
  else .ok { o with ranges := (c, c) :: o.ranges, first := false }

/-- The finished class. A hyphen that waits stands for itself. -/
def OpenClass.close (o : OpenClass) : Symbol :=
  let ranges := if o.waiting then ('-', '-') :: o.ranges else o.ranges
  .class o.negated ranges.reverse

namespace Scanner

/-- Adds a symbol outside of a class. -/
def push (s : Scanner) (symbol : Symbol) : Scanner :=
  { s with mode := .plain, symbols := symbol :: s.symbols }

/-- A character inside a class. A closing bracket in the first place stands for itself. -/
def classStep (s : Scanner) (o : OpenClass) (c : Char) : Except Fault Scanner :=
  if c == ']' && !o.first then .ok (s.push o.close)
  else (o.add c).map fun o => { s with mode := .inClass o, opened := c :: s.opened }

/-- One character of the text. -/
def step (s : Scanner) (c : Char) : Except Fault Scanner :=
  match s.mode with
  | .escape => .ok (s.push (.literal c true))
  | .classStart =>
    if c == '!' || c == '^' then
      .ok { s with mode := .inClass ⟨true, [], true, false⟩, opened := c :: s.opened }
    else s.classStep ⟨false, [], true, false⟩ c
  | .inClass o => s.classStep o c
  | .plain =>
    if c == '?' then .ok (s.push .question)
    else if c == '*' then .ok (s.push .star)
    else if c == '\x7b' then .ok (s.push .opening)
    else if c == '\x7d' then .ok (s.push .closing)
    else if c == ',' then .ok (s.push .comma)
    else if c == '\\' then .ok { s with mode := .escape }
    else if c == '[' && !s.plainBrackets then .ok { s with mode := .classStart, opened := [] }
    else .ok (s.push (.literal c false))

/-- Reads characters up to the first fault. -/
def scan (s : Scanner) : List Char → Scanner × Option Fault
  | [] => (s, none)
  | c :: rest => match s.step c with
    | .ok s => scan s rest
    | .error fault => (s, some fault)

end Scanner

/-- The symbols of a text up to its first fault. A bracket without a closing one is a fault, or
stands for itself where that is tolerated. -/
def symbols (tolerant : Bool) (text : List Char) : List Symbol × Option Fault :=
  let finish : Scanner × Option Fault → List Symbol × Option Fault
    | (s, some fault) => (s.symbols.reverse, some fault)
    | (s, none) => (s.symbols.reverse, match s.mode with
      | .plain => none
      | .escape => some .danglingEscape
      | .classStart | .inClass _ => some .unclosedClass)
  let (s, fault) := Scanner.scan {} text
  match finish (s, fault) with
  | (_, some .unclosedClass) =>
    if tolerant then
      let resumed := { symbols := .literal '[' false :: s.symbols, plainBrackets := true }
      finish (Scanner.scan resumed s.opened.reverse)
    else finish (s, fault)
  | result => result

/-- The bytes of a character. -/
def bytesOf (c : Char) : List UInt8 :=
  (String.singleton c).toUTF8.toList

/-- A range of characters as ranges of bytes: the last byte of the low end to the first byte of the
high end, and every other byte of both for itself. -/
def byteRanges : Char × Char → List (UInt8 × UInt8)
  | (low, high) =>
    let single (b : UInt8) := (b, b)
    let lows := bytesOf low
    if low == high then lows.map single
    else
      let highs := bytesOf high
      lows.dropLast.map single ++ [(lows.getLast?.getD 0, highs.head?.getD 0)] ++
        (highs.drop 1).map single

/-- An open group: the tokens before it and its finished branches, both in reverse. -/
structure Group where
  outer : List GlobToken
  branches : List (List GlobToken)

/-- The tokens of the current branch in reverse, the open groups, the character before, and whether
the slash that comes next belongs to the stars before it. -/
structure Builder where
  tokens : List GlobToken := []
  groups : List Group := []
  previous : Option Char := none
  ownsSlash : Bool := false

namespace Builder

/-- Adds parts behind a symbol that ends in `last`. -/
def push (b : Builder) (parts : List GlobToken) (last : Char) : Builder :=
  { b with tokens := parts.reverse ++ b.tokens, previous := some last }

/-- Two stars may fill a segment behind a slash, or at the start of a branch of a group. -/
def mayFill (b : Builder) : Bool :=
  b.previous == some '/' ||
    (!b.groups.isEmpty && (b.previous == some ',' || b.previous == some '\x7b'))

/-- Two stars that fill a segment, in place of the slash before them. -/
def fill (b : Builder) (token : GlobToken) : Builder :=
  let tokens := match b.tokens with
    | .leadingDirs :: rest => .leadingDirs :: rest
    | .everythingInside :: rest => .everythingInside :: rest
    | _ :: rest => token :: rest
    | [] => [token]
  { b with tokens, previous := some '*' }

/-- Two stars before `next`. At the start, or behind a slash, they reach over directories when they
fill a segment; anywhere else they are two stars. -/
def addStars (b : Builder) (next : Option Symbol) : Builder :=
  let beforeSlash := next == some (.literal '/' false)
  let atEnd := next.isNone ||
    (!b.groups.isEmpty && (next == some .comma || next == some .closing))
  let plain := b.push [.anyBytes, .anyBytes] '*'
  if b.tokens.isEmpty then
    if beforeSlash || next.isNone then
      { b.push [.leadingDirs] '*' with ownsSlash := beforeSlash }
    else plain
  else if !b.mayFill then plain
  else if atEnd then b.fill .everythingInside
  else if beforeSlash then { b.fill .innerDirs with ownsSlash := true }
  else plain

/-- Closes the innermost group. -/
def close (b : Builder) : Except Fault Builder :=
  match b.groups with
  | [] => .error .unopenedGroup
  | group :: groups =>
    let branches := (b.tokens.reverse :: group.branches).reverse
    .ok ⟨.alternatives branches :: group.outer, groups, some '\x7d', false⟩

/-- A symbol that is not a pair of stars. -/
def add (b : Builder) : Symbol → Except Fault Builder
  | .question => .ok (b.push [.anyByte] '?')
  | .star => .ok (b.push [.anyBytes] '*')
  | .opening => .ok ⟨[], ⟨b.tokens, []⟩ :: b.groups, some '\x7b', false⟩
  | .closing => b.close
  | .comma => match b.groups with
    | [] => .ok (b.push [.byte 44] ',')
    | group :: groups =>
      let group := { group with branches := b.tokens.reverse :: group.branches }
      .ok ⟨[], group :: groups, some ',', false⟩
  | .literal c _ =>
    if b.ownsSlash then .ok { b with previous := some c, ownsSlash := false }
    else .ok (b.push ((bytesOf c).map .byte) c)
  | .class negated ranges => .ok (b.push [.class negated (ranges.flatMap byteRanges)] ']')

end Builder

/-- Reads symbols. -/
def build (b : Builder) : List Symbol → Except Fault Builder
  | [] => .ok b
  | .star :: .star :: rest => build (b.addStars rest.head?) rest
  | symbol :: rest => do build (← b.add symbol) rest

/-- Reads a glob. Of several faults the one that comes first in the text is reported, and a group
that is never closed comes last. -/
def parse (tolerant : Bool) (text : List Char) : Except Fault Glob := do
  let (symbols, fault) := symbols tolerant text
  let built ← build {} symbols
  match fault with
  | some fault => throw fault
  | none => if built.groups.isEmpty then return built.tokens.reverse else throw .unclosedGroup

end SourceAtlas.Glob
