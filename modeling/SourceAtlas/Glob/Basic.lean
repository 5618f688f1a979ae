/-! Glob patterns over the bytes of a path. A star and a question mark stay inside one segment; two
stars that fill a segment reach over any number of them. -/
namespace SourceAtlas

/-- One part of a glob. -/
inductive GlobToken where
  | byte (b : UInt8)
  | anyByte
  | anyBytes
  | leadingDirs
  | innerDirs
  | everythingInside
  | class (negated : Bool) (ranges : List (UInt8 × UInt8))
  | alternatives (branches : List (List GlobToken))
deriving Repr

/-- A glob is a sequence of parts. -/
abbrev Glob := List GlobToken

namespace Glob

/-- The byte that divides the segments of a path. -/
def slash : UInt8 := 47

/-- What is left of a path behind each of its slashes. -/
def behindSlashes : List UInt8 → List (List UInt8)
  | [] => []
  | b :: rest => if b == slash then rest :: behindSlashes rest else behindSlashes rest

/-- A path and what is left of it behind each byte of its first segment. -/
def withinSegment : List UInt8 → List (List UInt8)
  | [] => [[]]
  | b :: rest => if b == slash then [b :: rest] else (b :: rest) :: withinSegment rest

/-- A path and everything that is left of it behind some of its bytes. -/
def tails : List UInt8 → List (List UInt8)
  | [] => [[]]
  | b :: rest => (b :: rest) :: tails rest

/-- The rest of a path behind one byte that passes a test. -/
def oneByte (accepts : UInt8 → Bool) : List UInt8 → List (List UInt8)
  | [] => []
  | b :: rest => if accepts b then [rest] else []

/-- Whether a byte lies in one of some ranges. -/
def inRanges (ranges : List (UInt8 × UInt8)) (b : UInt8) : Bool :=
  ranges.any fun (low, high) => low ≤ b && b ≤ high

mutual

/-- Whether a part can only stand for nothing: a group of which every branch does. -/
def isVoid : GlobToken → Bool
  | .alternatives branches => areVoid branches
  | _ => false

/-- Whether every branch can only stand for nothing. -/
def areVoid : List (List GlobToken) → Bool
  | [] => true
  | branch :: branches => allVoid branch && areVoid branches

/-- Whether every part of a sequence can only stand for nothing. -/
def allVoid : List GlobToken → Bool
  | [] => true
  | token :: tokens => isVoid token && allVoid tokens

end

mutual

/-- What may be left of a path behind one part. A branch that can only stand for nothing is no
choice, and without any choice the group is skipped. -/
def rests : GlobToken → List UInt8 → List (List UInt8)
  | .byte b, path => oneByte (· == b) path
  | .anyByte, path => oneByte (· != slash) path
  | .anyBytes, path => withinSegment path
  | .leadingDirs, path => path :: behindSlashes path
  | .innerDirs, path => (oneByte (· == slash) path).flatMap fun rest => rest :: behindSlashes rest
  | .everythingInside, path => (oneByte (· == slash) path).flatMap tails
  | .class negated ranges, path => oneByte (fun b => inRanges ranges b != negated) path
  | .alternatives branches, path =>
    if areVoid branches then [path] else restsOfBranches branches path

/-- What may be left behind one of some branches. -/
def restsOfBranches : List (List GlobToken) → List UInt8 → List (List UInt8)
  | [], _ => []
  | branch :: branches, path =>
    (if allVoid branch then [] else restsOfAll branch [path]) ++ restsOfBranches branches path

/-- What may be left behind a sequence of parts, of one of some paths. -/
def restsOfAll : List GlobToken → List (List UInt8) → List (List UInt8)
  | [], paths => paths
  | token :: tokens, paths => restsOfAll tokens (paths.flatMap (rests token)).eraseDups

end

/-- Whether a glob covers a whole path. Two stars alone cover every path. -/
def covers (glob : Glob) (path : List UInt8) : Bool :=
  match glob with
  | [.leadingDirs] => true
  | glob => (restsOfAll glob [path]).any List.isEmpty

end Glob
end SourceAtlas
