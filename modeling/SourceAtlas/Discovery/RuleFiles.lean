import SourceAtlas.Discovery.IgnoreRules
import SourceAtlas.FileTree

/-! The files that hold rules. Each directory may have its own, version control keeps some beside
its data, and there is one for all projects of a user. -/
namespace SourceAtlas

/-- The kinds of rules that a directory may have, the strongest first. -/
inductive RuleSource where
  | ignore
  | versionControl
  | exclude
deriving Repr, DecidableEq

namespace RuleSource

def all : List RuleSource :=
  [ignore, versionControl, exclude]

/-- The first line of a file. -/
def firstLine? (file : StoredFile) : Option (List Char) :=
  if file.bytes.isEmpty then none else (IgnoreRules.lines file.bytes.toList).head?

/-- The file with the rules beside the data of version control. Where a file stands in the place of
the data it says where they are, and what lies there says where the shared part is. -/
def excludeFile? (tree : FileTree) (dir : List (List Char)) : Option StoredFile :=
  match tree.file? (dir ++ [".git".toList]) with
  | none => tree.file? (dir ++ [".git".toList, "info".toList, "exclude".toList])
  | some link => do
    let own ← "gitdir: ".toList.isPrefixOf? (← firstLine? link)
    let common ← firstLine? (← tree.fileAt? (EntryPath.child own "commondir".toList))
    let shared := if common.head? == some '.' then EntryPath.child own common else common
    tree.fileAt? (EntryPath.child shared "info/exclude".toList)

/-- The file with the rules of a directory. -/
def file? (tree : FileTree) (dir : List (List Char)) : RuleSource → Option StoredFile
  | ignore => tree.file? (dir ++ [".ignore".toList])
  | versionControl => tree.file? (dir ++ [".gitignore".toList])
  | exclude => excludeFile? tree dir

/-- The rules of a directory. -/
def rules (source : RuleSource) (tree : FileTree) (dir : List (List Char)) : IgnoreRules :=
  ((source.file? tree dir).map fun file => IgnoreRules.ofFile file.bytes.toList).getD []

end RuleSource

/-! The settings of a user are lines with a name and a value. -/
namespace UserRules

/-- White space in settings. -/
def isSpace (b : UInt8) : Bool :=
  (9 ≤ b && b ≤ 13) || b == 32

/-- Whether only white space is left on the line. -/
def endsLine (bytes : List UInt8) : Bool :=
  let space := bytes.takeWhile isSpace
  space.contains 10 || space.length == bytes.length

/-- Whether nothing but white space and a quotation mark is left on the line. -/
def closesLine (bytes : List UInt8) : Bool :=
  endsLine bytes || match bytes.dropWhile isSpace with
    | 34 :: rest => endsLine rest
    | _ => false

/-- The shortest value, which has no white space in it, up to the end of the line. -/
def value? (gathered : List UInt8) : List UInt8 → Option (List UInt8)
  | [] => if gathered.isEmpty then none else some gathered.reverse
  | b :: rest =>
    if !gathered.isEmpty && closesLine (b :: rest) then some gathered.reverse
    else if isSpace b then none
    else value? (b :: gathered) rest

/-- The name of the setting. -/
def settingName : List UInt8 :=
  "excludesfile".toUTF8.toList

/-- A small letter for each ASCII capital. -/
def lowerByte (b : UInt8) : UInt8 :=
  if 65 ≤ b && b ≤ 90 then b + 32 else b

/-- The value of the setting, if the line starts with its name. -/
def setting? (line : List UInt8) : Option (List UInt8) :=
  let line := line.dropWhile isSpace
  if (line.take settingName.length).map lowerByte != settingName then none
  else match (line.drop settingName.length).dropWhile isSpace with
    | 61 :: rest =>
      let rest := rest.dropWhile isSpace
      let quoted := match rest with
        | 34 :: inner => value? [] (inner.dropWhile isSpace)
        | _ => none
      quoted.or (value? [] rest)
    | _ => none

/-- What follows each line feed. -/
def behindLines : List UInt8 → List (List UInt8)
  | [] => []
  | b :: rest => if b == 10 then rest :: behindLines rest else behindLines rest

/-- The path that settings give for the rules of a user; a tilde stands for the home directory. -/
def configured? (home : Option (List Char)) (settings : StoredFile) : Option (List Char) := do
  let bytes := settings.bytes.toList
  let value ← (bytes :: behindLines bytes).findSome? setting?
  let path ← String.fromUTF8? value.toByteArray
  some (path.toList.flatMap fun c => if c == '~' then home.getD ['~'] else [c])

/-- The variables that say where settings are. -/
def environmentKeys : List String :=
  ["HOME", "XDG_CONFIG_HOME"]

/-- The path of the rules of a user: the one in the settings of the home directory, or else in those
of the settings directory, or else the usual one. -/
def path? (tree : FileTree) (env : List (String × String)) : Option (List Char) :=
  let directory? (key : String) :=
    ((env.lookup key).filter (!·.isEmpty)).map String.toList
  let home := directory? "HOME"
  let settings := (directory? "XDG_CONFIG_HOME").or
    (home.map (EntryPath.child · ".config".toList))
  let configuredAt? (dir : Option (List Char)) (name : String) :=
    (dir.bind fun dir => tree.fileAt? (EntryPath.child dir name.toList)).bind (configured? home)
  (configuredAt? home ".gitconfig").or <| (configuredAt? settings "git/config").or <|
    settings.map (EntryPath.child · "git/ignore".toList)

/-- The rules of a user. -/
def ofEnvironment (tree : FileTree) (env : List (String × String)) : IgnoreRules :=
  let file := (path? tree env).bind tree.fileAt?
  (file.map fun file => IgnoreRules.ofFile file.bytes.toList).getD []

end UserRules
end SourceAtlas
