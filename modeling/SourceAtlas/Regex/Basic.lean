import SourceAtlas.Chars.Basic

/-! Regular expressions, as far as it takes to tell which texts are some. A text is read from left
to right into open groups and open classes, of which only the levels of nesting are kept. A
repetition, a group and a class each lie one level around what they hold, and so do several parts in
a row or several choices; one part alone adds no level. -/
namespace SourceAtlas.Nesting

/-- The number of levels an expression may have. -/
def limit : Nat := 250

/-- The levels of parts that stand together. -/
def together : List Nat → Nat
  | [] => 0
  | [levels] => levels
  | parts => parts.foldl max 0 + 1

end SourceAtlas.Nesting

namespace SourceAtlas.Regex

/-- The flags that decide how a text is read: whether white space in it means nothing, and whether
classes are classes of characters and not of bytes. -/
structure Flags where
  verbose : Bool := false
  unicode : Bool := true
deriving Repr, DecidableEq

namespace Flags

/-- The letters of the flags. -/
def letters : List Char := ['i', 'm', 's', 'U', 'u', 'R', 'x']

/-- What a sequence of letters does to a flag: it is cleared behind a hyphen. -/
def setting? (letters : List Char) (flag : Char) : Option Bool :=
  if (Chars.before (· == '-') letters).contains flag then some true
  else if letters.contains flag then some false
  else none

/-- The flags after a sequence of letters. -/
def set (flags : Flags) (letters : List Char) : Flags where
  verbose := (setting? letters 'x').getD flags.verbose
  unicode := (setting? letters 'u').getD flags.unicode

end Flags

/-- One part of a sequence. Only a change of flags cannot be repeated. -/
structure Part where
  levels : Nat
  repeatable : Bool := true
deriving Repr, DecidableEq

/-- An open group: the flags before it, the parts of its last branch in reverse, and the levels of
the branches before. -/
structure Group where
  flags : Flags := {}
  parts : List Part := []
  branches : List Nat := []
deriving Repr, DecidableEq

namespace Group

/-- The levels of all branches, the last one first. -/
def allBranches (g : Group) : List Nat :=
  Nesting.together (g.parts.map (·.levels)) :: g.branches

/-- The levels inside the group. -/
def levels (g : Group) : Nat :=
  Nesting.together g.allBranches

/-- The group with a part added. -/
def push (g : Group) (part : Part) : Group :=
  { g with parts := part :: g.parts }

/-- The group with a new branch. -/
def branch (g : Group) : Group :=
  { g with parts := [], branches := g.allBranches }

/-- The group with its last part repeated. -/
def repeatLast? (g : Group) : Option Group :=
  match g.parts with
  | [] => none
  | part :: parts =>
    if part.repeatable then some { g with parts := ⟨part.levels + 1, true⟩ :: parts } else none

end Group

/-- An open class: the levels of its items, and those of what stands before the last set
operator. -/
structure ClassSet where
  items : List Nat := []
  left : Option Nat := none
deriving Repr, DecidableEq

namespace ClassSet

/-- The levels inside the class. -/
def levels (c : ClassSet) : Nat :=
  let right := Nesting.together c.items
  match c.left with
  | none => right
  | some left => max left right + 1

/-- The class with an item added. -/
def add (c : ClassSet) (item : Nat) : ClassSet :=
  { c with items := item :: c.items }

/-- The class behind a set operator. -/
def operate (c : ClassSet) : ClassSet :=
  ⟨[], some c.levels⟩

end ClassSet

/-- What a character or an escape stands for. -/
inductive Atom where
  | literal (c : Char)
  | set
  | assertion
deriving Repr, DecidableEq

/-- Where an atom is read: among the parts of a group, among the items of a class, or behind the
hyphen of a range. -/
inductive Place where
  | part
  | item
  | rangeEnd (low : Char)
deriving Repr, DecidableEq

/-- Where the text has got to. -/
inductive Mode where
  | plain
  | repeated
  | opened
  | flags (letters : List Char)
  | name (letters : List Char)
  | escape (place : Place)
  | hex (place : Place) (isByte : Bool) (missing value : Nat)
  | property (place : Place)
  | classStart
  | classLead
  | classBody
  | classItem (low : Option Char)
  | rangeEnd (low : Char)
deriving Repr, DecidableEq

/-- Whether white space means nothing here when the flags say so. -/
def Mode.passesSpace : Mode → Bool
  | .flags _ | .name _ | .escape _ => false
  | _ => true

end SourceAtlas.Regex
