import SourceAtlas.Chars.Basic
import SourceAtlas.Glob.Expression
import SourceAtlas.Glob.Parser

/-! Rules on which entries of a tree are left out, one to a line. The last rule that matches an
entry decides about it. -/
namespace SourceAtlas

/-- What a rule says about an entry. -/
inductive Verdict where
  | skip
  | keep
deriving Repr, DecidableEq

/-- The other verdict. -/
def Verdict.inverse : Verdict → Verdict
  | skip => keep
  | keep => skip

/-- A glob with what it says about the entries it covers. -/
structure IgnoreRule where
  glob : Glob
  verdict : Verdict
  onlyDirectories : Bool

namespace IgnoreRule

/-- A line without the white space at its end, unless the last space is escaped. -/
def trimLine (line : List Char) : List Char :=
  if ['\\', ' '].isSuffixOf line then line else Chars.trimEnd line

/-- The text of a glob: one that names no directory matches at any depth, and one that ends in two
stars matches inside the directory only. -/
def globText (anchored : Bool) (text : List Char) : List Char :=
  let anyDepth := "**/".toList
  let floating := !anchored && !text.contains '/' && text != ['*', '*']
  let text := if floating then anyDepth ++ text else text
  if "/**".toList.isSuffixOf text then text ++ ['/', '*'] else text

/-- The text without a slash at its end, and whether there was one. A backslash before the slash
goes with it. -/
def dropFinalSlash (text : List Char) : List Char × Bool :=
  if text.getLast? == some '/' then
    let text := text.dropLast
    (if text.getLast? == some '\\' then text.dropLast else text, true)
  else (text, false)

/-- The text behind the leading marks, with the verdict and whether the glob is bound to the top: an
exclamation mark turns the verdict, and a slash binds. A backslash takes the meaning of an
exclamation mark or a hash. -/
def dropMarks (line : List Char) : List Char × Verdict × Bool :=
  let bound (text : List Char) (verdict : Verdict) := match text with
    | '/' :: text => (text, verdict, true)
    | text => (text, verdict, false)
  match line with
  | '\\' :: '!' :: rest => ('!' :: rest, .skip, false)
  | '\\' :: '#' :: rest => ('#' :: rest, .skip, false)
  | '!' :: rest => bound rest .keep
  | line => bound line .skip

/-- The rule of a line. A comment or a blank line has none. -/
def parse (tolerant : Bool) (line : List Char) : Except Glob.Fault (Option IgnoreRule) :=
  if line.head? == some '#' then .ok none
  else
    let line := trimLine line
    if line.isEmpty then .ok none
    else
      let (text, verdict, anchored) := dropMarks line
      let (text, onlyDirectories) := dropFinalSlash text
      (Glob.parse tolerant (globText anchored text)).map fun glob =>
        some ⟨glob, verdict, onlyDirectories⟩

/-- Whether a rule matches an entry with this path. -/
def covers (rule : IgnoreRule) (path : List UInt8) (isDirectory : Bool) : Bool :=
  (!rule.onlyDirectories || isDirectory) && Glob.covers rule.glob path

end IgnoreRule

/-- A sequence of rules. -/
abbrev IgnoreRules := List IgnoreRule

namespace IgnoreRules

/-- The verdict of the last rule that matches the entry with this path. -/
def verdict? (rules : IgnoreRules) (path : List Char) (isDirectory : Bool) : Option Verdict :=
  let path := (String.ofList path).toUTF8.toList
  (rules.filter fun rule => rule.covers path isDirectory).getLast?.map (·.verdict)

/-- Why the rules cannot be used together. -/
def depthFault? (rules : IgnoreRules) : Option Glob.DepthFault :=
  Glob.depthFault? (rules.map (·.glob))

/-- The pieces of a byte sequence between its line feeds. -/
def pieces : List UInt8 → List (List UInt8)
  | [] => [[]]
  | b :: rest =>
    if b == 10 then [] :: pieces rest
    else match pieces rest with
      | [] => [[b]]
      | piece :: later => (b :: piece) :: later

/-- A piece that a line feed ends, without a carriage return before it. -/
def endedLine (piece : List UInt8) : List UInt8 :=
  if piece.getLast? == some 13 then piece.dropLast else piece

/-- The readable lines of a file: those before the first one that is not valid text. -/
def lines (bytes : List UInt8) : List (List Char) :=
  let pieces := pieces bytes
  let lines := pieces.dropLast.map endedLine ++ pieces.getLast?.toList
  let texts := lines.map fun line => String.fromUTF8? line.toByteArray
  (texts.takeWhile Option.isSome).filterMap (Option.map String.toList)

/-- The rules of a file. A byte order mark before the first line is passed over, and so is a line
that is no rule. One rule that nests too deep takes all others with it. -/
def ofFile (bytes : List UInt8) : IgnoreRules :=
  let lines := match lines bytes with
    | first :: rest => first.dropWhile (· == '\uFEFF') :: rest
    | [] => []
  let rules := lines.filterMap fun line => (IgnoreRule.parse true line).toOption.join
  if (depthFault? rules).isSome then [] else rules

end IgnoreRules
end SourceAtlas
