import SourceAtlas.Chars.Basic

/-! Texts: the operations on character sequences for strings, paths, and lists that are kept in the
order of texts. -/
namespace SourceAtlas.Text

/-- Without the white space at both ends. -/
def trim (s : String) : String :=
  String.ofList (Chars.trim s.toList)

/-- Runs of white space become single spaces, and none is left at the ends. -/
def collapse (s : String) : String :=
  String.ofList (Chars.collapse s.toList)

/-- The longest lead of whole characters that takes at most `budget` bytes. -/
def fitBytes (budget : Nat) (s : String) : String :=
  String.ofList (Chars.fitBytes budget s.toList)

/-- The pieces at one separating character, without the empty ones. -/
def segments (separator : Char) (s : String) : List String :=
  (Chars.segments separator s.toList).map String.ofList

/-- The pieces joined with `separator` between them. -/
def join (separator : Char) (pieces : List String) : String :=
  String.ofList (Chars.join separator (pieces.map String.toList))

/-- Whether `s` begins with `lead`. -/
def startsWith (lead s : String) : Bool :=
  lead.toList.isPrefixOf s.toList

/-- Whether `s` ends with `tail`. -/
def endsWith (tail s : String) : Bool :=
  tail.toList.isSuffixOf s.toList

/-- Whether `needle` occurs in `s`. -/
def contains (needle s : String) : Bool :=
  Chars.contains needle.toList s.toList

/-- A small letter for each ASCII capital; every other character stays. -/
def lower (s : String) : String :=
  String.ofList (Chars.lower s.toList)

/-- The number of lines, at least one. -/
def lineCount (s : String) : Nat :=
  max 1 (Chars.lines s.toList).length

/-- The first line, empty for an empty text. -/
def firstLine (cs : List Char) : List Char :=
  (Chars.lines cs).head?.getD []

/-- Whether a character quotes the text between two copies of it. -/
def isQuote (c : Char) : Bool :=
  c == '\x22' || c == '\x27' || c == '\x60'

/-- Trimmed, and without one pair of quotes or angle brackets around it. -/
def unquote (s : String) : String :=
  let cs := Chars.trim s.toList
  let quoted := match cs, cs.getLast? with
    | first :: _ :: _, some last =>
      (first == last && isQuote first) || (first == '<' && last == '>')
    | _, _ => false
  String.ofList (if quoted then (cs.drop 1).dropLast else cs)

end SourceAtlas.Text

/-! Project-relative paths: segments divided by slashes. A canonical path has no empty segment
and none that is a dot or a double dot. -/
namespace SourceAtlas.Path

/-- The pieces of a path between its slashes, empty ones included. -/
def pieces (path : String) : List (List Char) :=
  Chars.splitOn '/' path.toList

/-- A segment that names an entry, so neither empty nor a dot nor a double dot. -/
def isName (segment : List Char) : Bool :=
  !segment.isEmpty && segment != ['.'] && segment != ['.', '.']

/-- The path made of the named segments, a single dot when there is none. -/
def normalize (path : String) : String :=
  match (pieces path).filter isName with
  | [] => "."
  | names => String.ofList (Chars.join '/' names)

/-- Everything before the last slash, empty when there is none. -/
def parent (path : String) : String :=
  match Chars.cutLast? '/' path.toList with
  | some (dir, _) => String.ofList dir
  | none => ""

/-- Everything after the last slash. -/
def fileName (path : String) : String :=
  match Chars.cutLast? '/' path.toList with
  | some (_, name) => String.ofList name
  | none => path

/-- The file name up to its last dot; a leading dot does not count. -/
def stem (path : String) : String :=
  let name := fileName path
  match Chars.cutLast? '.' name.toList with
  | some ([], _) => name
  | some (before, _) => String.ofList before
  | none => name

/-- Folds one segment of a relative path into the segments that lead to it: an empty segment or a
dot stays in place, a double dot leaves the last directory and fails above the root. -/
def step (names : List (List Char)) (segment : List Char) : Option (List (List Char)) :=
  if segment.isEmpty || segment == ['.'] then some names
  else if segment == ['.', '.'] then
    if names.isEmpty then none else some names.dropLast
  else some (names ++ [segment])

/-- The segments reached from `names` along `segments`. -/
def walk (names segments : List (List Char)) : Option (List (List Char)) :=
  segments.foldlM step names

/-- The path `relative` written in the directory `dir`; a leading slash starts at the root.
Nothing when the walk leaves the root or ends there. -/
def resolve (dir relative : String) : Option String :=
  let start := if Text.startsWith "/" relative then [] else Chars.segments '/' dir.toList
  match walk start (pieces relative) with
  | none | some [] => none
  | some names => some (String.ofList (Chars.join '/' names))

/-- The directory `levels` above `dir`, unless that lies above the root. -/
def above (dir : String) (levels : Nat) : Option String :=
  let names := Chars.segments '/' dir.toList
  if levels ≤ names.length then
    some (String.ofList (Chars.join '/' (names.take (names.length - levels))))
  else none

/-- `rest` inside `dir`; an empty side adds nothing. -/
def within (dir rest : String) : String :=
  if dir.isEmpty then rest else if rest.isEmpty then dir else dir ++ "/" ++ rest

/-- What follows the last dot of the last segment. A trailing slash or dot segment is ignored, and
a name whose only dot is the first character has no extension. -/
def extension? (path : String) : Option String :=
  let entries := (pieces path).filter fun piece => !piece.isEmpty && piece != ['.']
  match entries.getLast? with
  | none => none
  | some name =>
    if name == ['.', '.'] then none
    else match Chars.cutLast? '.' name with
      | none | some ([], _) => none
      | some (_, ext) => some (String.ofList ext)

end SourceAtlas.Path

/-! Lists without repetition: the first occurrences of a list, and lists that are kept strictly
increasing by a key. Two increasing lists with the same members are equal, so such a list is a set,
or a finite map when the key is part of the element. -/
namespace SourceAtlas.Sorted

/-- The first occurrences of the elements of a list, in order. -/
def distinct [DecidableEq α] : List α → List α
  | [] => []
  | a :: rest => a :: (distinct rest).filter (· ≠ a)

/-- Adds an element where its key belongs, unless an element has that key already. -/
def insertNew (key : α → String) (a : α) : List α → List α
  | [] => [a]
  | b :: rest =>
    if key a < key b then a :: b :: rest
    else if key a = key b then b :: rest
    else b :: insertNew key a rest

/-- Adds an element where its key belongs, in place of the element that has that key already. -/
def insertOver (key : α → String) (a : α) : List α → List α
  | [] => [a]
  | b :: rest =>
    if key a < key b then a :: b :: rest
    else if key a = key b then a :: rest
    else b :: insertOver key a rest

/-- The increasing list of the texts that occur in a list. -/
def ofTexts (texts : List String) : List String :=
  texts.foldl (fun sorted text => insertNew id text sorted) []

end SourceAtlas.Sorted
