import SourceAtlas.Chars.Table

/-! Characters and sequences of characters. Classes of characters go by Unicode property. The
operations take a text apart at separators or at white space, squeeze white space, and cut by a
number of UTF-8 bytes. They recurse on the sequence, so every statement about them is an induction
over its characters. -/
namespace SourceAtlas.Chars

/-- White space: the property White_Space. -/
def isBlank (c : Char) : Bool :=
  let n := c.toNat
  (9 ≤ n && n ≤ 13) || n == 0x20 || n == 0x85 || n == 0xA0 || n == 0x1680 ||
    (0x2000 ≤ n && n ≤ 0x200A) || n == 0x2028 || n == 0x2029 || n == 0x202F ||
    n == 0x205F || n == 0x3000

/-- Letters of any script. -/
def isAlphabetic (c : Char) : Bool :=
  onRun c.toNat alphabeticRuns

/-- Letters and numbers of any script. -/
def isAlphanumeric (c : Char) : Bool :=
  isAlphabetic c || onRun c.toNat decimalRuns || onRun c.toNat otherNumberRuns

/-- Capital letters of any script. -/
def isUppercase (c : Char) : Bool :=
  onRun c.toNat uppercaseRuns

/-- Connecting punctuation and joiners. -/
def isConnector (c : Char) : Bool :=
  let n := c.toNat
  n == 0x5F || n == 0x203F || n == 0x2040 || n == 0x2054 || n == 0xFE33 || n == 0xFE34 ||
    (0xFE4D ≤ n && n ≤ 0xFE4F) || n == 0xFF3F || n == 0x200C || n == 0x200D

/-- Characters of a word: letters, marks, decimal digits and connectors. What counts as a word stays
as it was in version 16 of the standard, so the newest letters are not part of any. -/
def isWordChar (c : Char) : Bool :=
  let n := c.toNat
  (isAlphabetic c || onRun n decimalRuns || onRun n markRuns || isConnector c) &&
    !onRun n newestRuns

/-- The pieces between the characters that satisfy `isSeparator`, empty pieces included. There is
always at least one piece. -/
def split (isSeparator : Char → Bool) : List Char → List (List Char)
  | [] => [[]]
  | c :: rest =>
    if isSeparator c then [] :: split isSeparator rest
    else match split isSeparator rest with
      | [] => [[c]]
      | piece :: pieces => (c :: piece) :: pieces

/-- The pieces at one separating character. -/
def splitOn (separator : Char) (cs : List Char) : List (List Char) :=
  split (· == separator) cs

/-- The pieces at one separating character, without the empty ones. -/
def segments (separator : Char) (cs : List Char) : List (List Char) :=
  (splitOn separator cs).filter (fun piece => !piece.isEmpty)

/-- The maximal runs of characters that are not white space. -/
def words (cs : List Char) : List (List Char) :=
  (split isBlank cs).filter (fun word => !word.isEmpty)

/-- Without the white space at the start. -/
def trimStart (cs : List Char) : List Char :=
  cs.dropWhile isBlank

/-- Without the trailing characters that satisfy `drop`. -/
def dropTail (drop : Char → Bool) (cs : List Char) : List Char :=
  (cs.reverse.dropWhile drop).reverse

/-- Without the white space at the end. -/
def trimEnd (cs : List Char) : List Char :=
  dropTail isBlank cs

/-- Without the white space at both ends. -/
def trim (cs : List Char) : List Char :=
  trimEnd (trimStart cs)

/-- Every run of white space becomes one space; `inRun` says that the space of the current run is
already written. -/
def squeeze (inRun : Bool) : List Char → List Char
  | [] => []
  | c :: rest =>
    if isBlank c then
      if inRun then squeeze true rest else ' ' :: squeeze true rest
    else c :: squeeze false rest

/-- Runs of white space become single spaces, and none is left at the ends. -/
def collapse (cs : List Char) : List Char :=
  trim (squeeze false cs)

/-- The number of bytes of the UTF-8 form. -/
def byteLength (cs : List Char) : Nat :=
  cs.foldl (fun total c => total + c.utf8Size) 0

/-- The longest lead of whole characters that takes at most `budget` bytes. -/
def fitBytes : Nat → List Char → List Char
  | _, [] => []
  | budget, c :: rest =>
    if c.utf8Size ≤ budget then c :: fitBytes (budget - c.utf8Size) rest else []

/-- The lead of exactly `count` bytes, or nothing when that many bytes do not end a character. -/
def takeBytes? : Nat → List Char → Option (List Char)
  | 0, _ => some []
  | _ + 1, [] => none
  | count + 1, c :: rest =>
    if c.utf8Size ≤ count + 1 then (takeBytes? (count + 1 - c.utf8Size) rest).map (c :: ·)
    else none

/-- The characters from one byte offset to another, if both stand at the edge of a character. -/
def sliceBytes? (start stop : Nat) (cs : List Char) : Option (List Char) := do
  let lead ← takeBytes? start cs
  takeBytes? (stop - start) (cs.drop lead.length)

/-- What stands before and after the first occurrence of `needle`. -/
def cut? (needle : List Char) : List Char → Option (List Char × List Char)
  | [] => if needle.isEmpty then some ([], []) else none
  | c :: rest =>
    if needle.isPrefixOf (c :: rest) then some ([], (c :: rest).drop needle.length)
    else (cut? needle rest).map fun (before, after) => (c :: before, after)

/-- Whether `needle` occurs anywhere. -/
def contains (needle cs : List Char) : Bool :=
  (cut? needle cs).isSome

/-- What stands before the first character that satisfies `stop`; everything when none does. -/
def before (stop : Char → Bool) (cs : List Char) : List Char :=
  cs.takeWhile (fun c => !stop c)

/-- What stands before and after the last occurrence of `separator`. -/
def cutLast? (separator : Char) (cs : List Char) : Option (List Char × List Char) :=
  if cs.contains separator then
    let tail := cs.reverse.takeWhile (· != separator)
    some (cs.take (cs.length - tail.length - 1), tail.reverse)
  else none

/-- Without every leading copy of `lead`. -/
def dropLead (lead : List Char) (cs : List Char) : List Char :=
  match lead, cs with
  | [], cs => cs
  | l :: ls, cs =>
    if (l :: ls).isPrefixOf cs then dropLead (l :: ls) (cs.drop (l :: ls).length) else cs
termination_by cs.length
decreasing_by
  rename_i found
  have := (List.isPrefixOf_iff_prefix.mp found).length_le
  simp at this ⊢
  omega

/-- Without every trailing copy of `tail`. -/
def dropEnd (tail : List Char) (cs : List Char) : List Char :=
  (dropLead tail.reverse cs.reverse).reverse

/-- The pieces joined with `separator` between them. -/
def join (separator : Char) (pieces : List (List Char)) : List Char :=
  List.intercalate [separator] pieces

/-- The lines of a text: it is divided at line feeds, a final empty piece is no line, and a
carriage return before the line feed belongs to the line end. -/
def lines (cs : List Char) : List (List Char) :=
  let pieces := splitOn '\n' cs
  let last := pieces.getLast?.getD []
  let ended := pieces.dropLast.map fun line =>
    if line.getLast? == some '\r' then line.dropLast else line
  if last.isEmpty then ended else ended ++ [last]

/-- A small letter for each ASCII capital; every other character stays. -/
def lower (cs : List Char) : List Char :=
  cs.map Char.toLower

/-- A hexadecimal digit in lower case. -/
def hexDigit (n : Nat) : Char :=
  if n < 10 then Char.ofNat (48 + n) else Char.ofNat (87 + n)

/-- The value of a hexadecimal digit in either case. -/
def hexValue? (c : Char) : Option Nat :=
  let n := c.toNat
  if 48 ≤ n && n ≤ 57 then some (n - 48)
  else if 65 ≤ n && n ≤ 70 then some (n - 55)
  else if 97 ≤ n && n ≤ 102 then some (n - 87)
  else none

/-- The number written with ASCII digits only; at least one is required. -/
def digits? (cs : List Char) : Option Nat :=
  if cs.isEmpty || !cs.all Char.isDigit then none
  else some (cs.foldl (fun n c => 10 * n + (c.toNat - 48)) 0)

end SourceAtlas.Chars
