import SourceAtlas.Glob.Basic
import SourceAtlas.Regex.Basic

/-! Globs as regular expressions. The globs of a list are matched together: a plain one by looking
its text up, any other as an expression, which may nest only so deep. An expression that has to end
in an extension is kept apart from the rest. -/
namespace SourceAtlas.Glob

/-- The characters that mean something in an expression. -/
def metaCharacters : List Char :=
  ['\\', '.', '+', '*', '?', '(', ')', '|', '[', ']', '\x7b', '\x7d', '^', '$', '#', '&', '-', '~']

/-- A byte as it is written in an expression: escaped where it means something, and by its number
beyond ASCII. -/
def byteText (b : UInt8) : List Char :=
  let c := Char.ofNat b.toNat
  if 128 ≤ b.toNat then
    let digit (n : Nat) := if n < 10 then Char.ofNat (48 + n) else Char.ofNat (87 + n)
    ['\\', 'x', digit (b.toNat / 16), digit (b.toNat % 16)]
  else if metaCharacters.contains c then ['\\', c]
  else [c]

/-- A range of a class as it is written. -/
def rangeText : UInt8 × UInt8 → List Char
  | (low, high) => if low == high then byteText low else byteText low ++ '-' :: byteText high

mutual

/-- The text of one part. -/
def partText : GlobToken → List Char
  | .byte b => byteText b
  | .anyByte => "[^/]".toList
  | .anyBytes => "[^/]*".toList
  | .leadingDirs => "(?:/?|.*/)".toList
  | .innerDirs => "(?:/|/.*/)".toList
  | .everythingInside => "/.*".toList
  | .class negated ranges =>
    '[' :: (if negated then ['^'] else []) ++ ranges.flatMap rangeText ++ [']']
  | .alternatives branches =>
    if areVoid branches then []
    else "(?:".toList ++ List.intercalate ['|'] (branchTexts branches) ++ [')']

/-- The texts of the branches that can stand for something. -/
def branchTexts : List (List GlobToken) → List (List Char)
  | [] => []
  | branch :: branches =>
    (if allVoid branch then [] else [sequenceText branch]) ++ branchTexts branches

/-- The text of a sequence of parts. -/
def sequenceText : List GlobToken → List Char
  | [] => []
  | token :: tokens => partText token ++ sequenceText tokens

end

/-- The text of the whole expression. -/
def expressionText (glob : Glob) : List Char :=
  let inner := match glob with
    | [.leadingDirs] => ".*".toList
    | glob => sequenceText glob
  "(?-u)^".toList ++ inner ++ ['$']

mutual

/-- The levels of nesting in what one part is written as. -/
def partLevels : GlobToken → List Nat
  | .byte _ => [0]
  | .anyByte => [1]
  | .anyBytes => [2]
  | .leadingDirs | .innerDirs => [4]
  | .everythingInside => [0, 1]
  | .class _ ranges => [if ranges.length ≤ 1 then 1 else 2]
  | .alternatives branches =>
    if areVoid branches then [] else [Nesting.together (branchLevels branches) + 1]

/-- The levels of the branches that can stand for something. -/
def branchLevels : List (List GlobToken) → List Nat
  | [] => []
  | branch :: branches =>
    (if allVoid branch then [] else [Nesting.together (sequenceLevels branch)]) ++
      branchLevels branches

/-- The levels of the parts of a sequence. -/
def sequenceLevels : List GlobToken → List Nat
  | [] => []
  | token :: tokens => partLevels token ++ sequenceLevels tokens

end

/-- The levels of the whole expression, which always has several parts. -/
def levels (glob : Glob) : Nat :=
  (sequenceLevels glob).foldl max 0 + 1

/-- Whether a glob nests too deep. -/
def isTooDeep (glob : Glob) : Bool :=
  Nesting.limit < levels glob

/-- Whether all parts are bytes. -/
def isText (glob : Glob) : Bool :=
  glob.all fun
    | .byte _ => true
    | _ => false

/-- Whether a part is one of the bytes that divide names or their endings. -/
def isByte (b : UInt8) : GlobToken → Bool
  | .byte other => other == b
  | _ => false

/-- Whether a glob can be looked up: it is a text, or a text at any depth, or an extension. -/
def isPlain : Glob → Bool
  | [] => false
  | [.leadingDirs] => false
  | .leadingDirs :: .anyBytes :: dot :: ending =>
    isByte 46 dot && isText ending && !ending.any fun token => isByte 46 token || isByte slash token
  | .leadingDirs :: glob => isText glob
  | glob => isText glob || (isText glob.dropLast && match glob with
    | [] | [_] => false
    | glob => match glob.getLast? with
      | some .everythingInside => true
      | _ => false)

/-- Whether a glob ends in a dot and a text without a slash. -/
def hasExtension (glob : Glob) : Bool :=
  let ending := glob.reverse.takeWhile fun token => isText [token] && !isByte 46 token
  !ending.any (isByte slash) && (glob.reverse.drop ending.length).head?.any (isByte 46)

/-- Why globs cannot be matched together: one with an extension nests too deep, or one of the
others, which is known by its number among them. -/
inductive DepthFault where
  | inExtension (text : List Char)
  | inExpression (index : Nat)
deriving Repr, DecidableEq

/-- The text of the fault. -/
def DepthFault.message : DepthFault → String
  | inExtension text =>
    "error parsing glob '" ++ String.ofList text ++ "': error parsing pattern 0"
  | inExpression index => "error parsing pattern " ++ Nat.repr index

/-- The fault in a list of globs. Those with an extension come first. -/
def depthFault? (globs : List Glob) : Option DepthFault :=
  let (extensions, others) := (globs.filter (!isPlain ·)).partition hasExtension
  match extensions.find? isTooDeep with
  | some glob => some (.inExtension (expressionText glob))
  | none => (others.findIdx? isTooDeep).map .inExpression

end SourceAtlas.Glob
