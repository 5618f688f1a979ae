import SourceAtlas.Regex.Basic

/-! Reading regular expressions one character at a time. Counted repetitions and names in braces are
not part of the language: a brace that opens is refused. So is what no finite automaton over valid
text can do, which is to look for the boundaries of words of any script, or to match single bytes
beyond ASCII. -/
namespace SourceAtlas.Regex

/-- What is read: the innermost group and those around it, the open classes, the flags, the names of
groups, the characters still to be passed over, and whether they belong to a comment. -/
structure Reader where
  mode : Mode := .plain
  flags : Flags := {}
  group : Group := {}
  outer : List Group := []
  classes : List ClassSet := []
  names : List (List Char) := []
  skipped : Nat := 0
  inComment : Bool := false

/-- The names of the classes of ASCII characters. -/
def asciiClasses : List String :=
  ["alnum", "alpha", "ascii", "blank", "cntrl", "digit", "graph", "lower", "print", "punct",
    "space", "upper", "word", "xdigit"]

/-- Whether a text behind a bracket names a class of ASCII characters: whether the class is
negated, and how long the name is with its marks. -/
def asciiClass? (text : List Char) : Option (Bool × Nat) :=
  let named (negated : Bool) (marks : Nat) (text : List Char) :=
    (asciiClasses.find? fun name => (name.toList ++ [':', ']']).isPrefixOf text).map fun name =>
      (negated, marks + name.length + 2)
  match text with
  | ':' :: '^' :: text => named true 2 text
  | ':' :: text => named false 1 text
  | _ => none

/-- The character that counts behind a hyphen. In a verbose text white space does not, and neither
does the first hash; where nothing else is left it is the next character after all. -/
def peek (verbose : Bool) (text : List Char) : Option Char :=
  if verbose then
    let visible := text.dropWhile Chars.isBlank
    let visible := match visible with
      | '#' :: rest => rest.dropWhile Chars.isBlank
      | _ => visible
    visible.head?.or text.head?
  else text.head?

/-- Whether a character may stand in the name of a group. -/
def isNameChar (first : Bool) (c : Char) : Bool :=
  c == '_' || if first then Chars.isAlphabetic c else
    c == '.' || c == '[' || c == ']' || Chars.isAlphanumeric c

/-- What an escaped character stands for, when that takes no more than the character. -/
def escaped? (unicode inClass : Bool) (c : Char) : Option Atom :=
  if ['d', 's', 'w'].contains c then some .set
  else if ['D', 'S', 'W'].contains c then if unicode then some .set else none
  else if ['A', 'z'].contains c then some .assertion
  else if ['b', 'B', '<', '>'].contains c then
    if unicode || inClass then none else some .assertion
  else if c == 'a' then some (.literal '\x07')
  else if c == 'f' then some (.literal '\x0c')
  else if c == 't' then some (.literal '\t')
  else if c == 'n' then some (.literal '\n')
  else if c == 'r' then some (.literal '\r')
  else if c == 'v' then some (.literal '\x0b')
  else if c.toNat < 128 && !c.isAlphanum then some (.literal c)
  else none

namespace Reader

/-- The reader with a part added to the group. -/
def push (r : Reader) (levels : Nat) : Reader :=
  { r with mode := .plain, group := r.group.push ⟨levels, true⟩ }

/-- The reader with an item added to the innermost class. -/
def addItem (r : Reader) (levels : Nat) : Reader :=
  let classes := match r.classes with
    | [] => []
    | c :: outer => c.add levels :: outer
  { r with mode := .classBody, classes }

/-- The reader with an open group, which is read under some flags. -/
def openGroup (r : Reader) (flags : Flags) : Reader :=
  { r with mode := .plain, flags, group := { flags := r.flags }, outer := r.group :: r.outer }

/-- The reader with the innermost group closed, if there is one. -/
def closeGroup? (r : Reader) : Option Reader :=
  match r.outer with
  | [] => none
  | around :: outer =>
    some { r with
      mode := .plain
      flags := r.group.flags
      group := around.push ⟨r.group.levels + 1, true⟩
      outer }

/-- The reader with the innermost class closed. -/
def closeClass (r : Reader) : Reader :=
  match r.classes with
  | [] => r
  | [c] => { r with classes := [] }.push (c.levels + 1)
  | c :: outer => { r with classes := outer }.addItem (c.levels + 1)

/-- The reader behind a set operator of two characters. -/
def operate (r : Reader) : Reader :=
  let classes := match r.classes with
    | [] => []
    | c :: outer => c.operate :: outer
  { r with mode := .classBody, classes, skipped := 1 }

/-- The reader behind an atom. A class of bytes has ASCII characters only, and a range starts at its
least character. -/
def accept? (r : Reader) (place : Place) (atom : Atom) : Option Reader :=
  match place, atom with
  | .part, _ => some (r.push 0)
  | .item, .set => some { r with mode := .classItem none }
  | .item, .literal c =>
    if r.flags.unicode || c.toNat < 128 then some { r with mode := .classItem (some c) } else none
  | .rangeEnd low, .literal c =>
    if (r.flags.unicode || c.toNat < 128) && low ≤ c then some (r.addItem 0) else none
  | _, _ => none

/-- A character among the parts of a group. -/
def plainStep (r : Reader) (c : Char) : Option Reader :=
  if c == '(' then some { r with mode := .opened }
  else if c == ')' then r.closeGroup?
  else if c == '|' then some { r with mode := .plain, group := r.group.branch }
  else if c == '[' then some { r with mode := .classStart, classes := [{}] }
  else if ['?', '*', '+'].contains c then
    r.group.repeatLast?.map fun group => { r with mode := .repeated, group }
  else if c == '\x7b' then none
  else if c == '\\' then some { r with mode := .escape .part }
  else if c == '.' then if r.flags.unicode then some (r.push 0) else none
  else some (r.push 0)

/-- The first character behind an opening parenthesis. It looks neither ahead nor behind, names the
group, sets flags, or belongs to the group already. -/
def openedStep (r : Reader) (c : Char) (rest : List Char) : Option Reader :=
  let begins (lead : String) := lead.toList.isPrefixOf (c :: rest)
  if ["?=", "?!", "?<=", "?<!"].any begins then none
  else if begins "?P<" then some { r with mode := .name [], skipped := 2 }
  else if begins "?<" then some { r with mode := .name [], skipped := 1 }
  else if c == '?' then some { r with mode := .flags [] }
  else (r.openGroup r.flags).plainStep c

/-- A character behind the question mark that sets flags. No flag may repeat, a hyphen needs one
behind it, and without a group there has to be one. -/
def flagsStep (r : Reader) (letters : List Char) (c : Char) : Option Reader :=
  let flags := r.flags.set letters.reverse
  if c == ':' || c == ')' then
    if letters.head? == some '-' then none
    else if c == ':' then some (r.openGroup flags)
    else if letters.isEmpty then none
    else some { r with mode := .plain, flags, group := r.group.push ⟨0, false⟩ }
  else if (c == '-' || Flags.letters.contains c) && !letters.contains c then
    some { r with mode := .flags (c :: letters) }
  else none

/-- A character of the name of a group. No two groups have the same name. -/
def nameStep (r : Reader) (letters : List Char) (c : Char) : Option Reader :=
  if c == '>' then
    if letters.isEmpty || r.names.contains letters then none
    else some { r.openGroup r.flags with names := letters :: r.names }
  else if isNameChar letters.isEmpty c then some { r with mode := .name (c :: letters) }
  else none

/-- The character behind a backslash. -/
def escapeStep (r : Reader) (place : Place) (c : Char) : Option Reader :=
  if c == 'x' then some { r with mode := .hex place true 2 0 }
  else if c == 'u' then some { r with mode := .hex place false 4 0 }
  else if c == 'U' then some { r with mode := .hex place false 8 0 }
  else if c == 'p' || c == 'P' then some { r with mode := .property place }
  else (escaped? r.flags.unicode (place != .part) c).bind (r.accept? place)

/-- A hexadecimal digit, of which some are still missing. The number has to be that of a character;
where classes are of bytes, two digits stand for a byte. -/
def hexStep (r : Reader) (place : Place) (isByte : Bool) (missing value : Nat) (c : Char) :
    Option Reader := do
  let value := 16 * value + (← Chars.hexValue? c)
  if missing ≤ 1 then
    if value.isValidChar && (r.flags.unicode || !isByte || value < 128) then
      r.accept? place (.literal (Char.ofNat value))
    else none
  else some { r with mode := .hex place isByte (missing - 1) value }

/-- The letter of a general category. -/
def propertyStep (r : Reader) (place : Place) (c : Char) : Option Reader :=
  if r.flags.unicode && ['c', 'l', 'm', 'n', 'p', 's', 'z'].contains c.toLower then
    r.accept? place .set
  else none

/-- A character among the items of a class. -/
def classStep (r : Reader) (c : Char) (rest : List Char) : Option Reader :=
  if c == '[' then
    match asciiClass? rest with
    | some (negated, length) =>
      if negated && !r.flags.unicode then none else some { r.addItem 0 with skipped := length }
    | none => some { r with mode := .classStart, classes := {} :: r.classes }
  else if c == ']' then some r.closeClass
  else if ['&', '-', '~'].contains c && rest.head? == some c then some r.operate
  else if c == '\\' then some { r with mode := .escape .item }
  else r.accept? .item (.literal c)

/-- A character at the start of a class, where hyphens stand for themselves, and so does a closing
bracket that comes first. -/
def leadStep (r : Reader) (c : Char) (rest : List Char) : Option Reader :=
  if c == '-' then some { r.addItem 0 with mode := .classLead }
  else if c == ']' && r.classes.head?.any (·.items.isEmpty) then some (r.addItem 0)
  else r.classStep c rest

/-- A character behind an item. A hyphen makes a range of it, unless the class ends there or the
hyphen is doubled. -/
def itemStep (r : Reader) (low : Option Char) (c : Char) (rest : List Char) : Option Reader :=
  let next := peek r.flags.verbose rest
  if c == '-' && next != some ']' && next != some '-' then
    low.map fun low => { r with mode := .rangeEnd low }
  else (r.addItem 0).classStep c rest

/-- A character by the mode of the reader. -/
def modeStep (r : Reader) (c : Char) (rest : List Char) : Option Reader :=
  match r.mode with
  | .plain => r.plainStep c
  | .repeated => if c == '?' then some { r with mode := .plain } else r.plainStep c
  | .opened => r.openedStep c rest
  | .flags letters => r.flagsStep letters c
  | .name letters => r.nameStep letters c
  | .escape place => r.escapeStep place c
  | .hex place isByte missing value => r.hexStep place isByte missing value c
  | .property place => r.propertyStep place c
  | .classStart =>
    if c == '^' then if r.flags.unicode then some { r with mode := .classLead } else none
    else r.leadStep c rest
  | .classLead => r.leadStep c rest
  | .classBody => r.classStep c rest
  | .classItem low => r.itemStep low c rest
  | .rangeEnd low =>
    if c == '\\' then some { r with mode := .escape (.rangeEnd low) }
    else r.accept? (.rangeEnd low) (.literal c)

/-- One character of the text. -/
def step (r : Reader) (c : Char) (rest : List Char) : Option Reader :=
  if 0 < r.skipped then some { r with skipped := r.skipped - 1 }
  else if r.inComment then some { r with inComment := c != '\n' }
  else if r.flags.verbose && r.mode.passesSpace && (Chars.isBlank c || c == '#') then
    some { r with
      mode := if r.mode == .repeated then .plain else r.mode
      inComment := c == '#' }
  else r.modeStep c rest

/-- Reads a whole text. -/
def read? (r : Reader) : List Char → Option Reader
  | [] => some r
  | c :: rest => (r.step c rest).bind fun r => r.read? rest

/-- Whether everything that was opened is closed, within the limit of nesting. -/
def isComplete (r : Reader) : Bool :=
  (r.mode == .plain || r.mode == .repeated) && r.outer.isEmpty && r.group.levels ≤ Nesting.limit

end Reader

/-- Whether a text is a regular expression. -/
def isValid (text : List Char) : Bool :=
  (Reader.read? {} text).any Reader.isComplete

end SourceAtlas.Regex
