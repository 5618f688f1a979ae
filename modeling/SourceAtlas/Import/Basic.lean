import SourceAtlas.Import.KnownFiles
import SourceAtlas.Language

/-! Finding the file an import refers to. Each family turns the text of an import into a list of
probes; only where crates are rooted depends on the files that are known. What a search finds is
dropped when it is the importing file itself. -/
namespace SourceAtlas.Import

/-- A path relative to the directory of a file. -/
def besides? (file spec : String) : Option String :=
  Path.resolve (Path.parent file) spec

/-- Whether a text is a path and not the name of a package. -/
def isRelative (spec : String) : Bool :=
  Text.startsWith "./" spec || Text.startsWith "../" spec || Text.startsWith "/" spec ||
    spec == "." || spec == ".."

/-- A web address without query and fragment. -/
def withoutQuery (spec : String) : String :=
  String.ofList (Chars.trim (Chars.before (fun c => c == '?' || c == '#') spec.toList))

/-- A dotted name as a path. -/
def dotsToSlashes (cs : List Char) : String :=
  String.ofList (cs.map fun c => if c == '.' then '/' else c)

/-- `path` without `tail`, if it ends so. -/
def withoutTail? (tail path : String) : Option String :=
  if Text.endsWith tail path then
    some (String.ofList (path.toList.take (path.length - tail.length)))
  else none

namespace Javascript

def extensions : List String :=
  ["ts", "tsx", "d.ts", "js", "jsx", "mjs", "cjs"]

/-- The index files of a directory in the order of preference. -/
def indexFiles : List String :=
  extensions.map ("index." ++ ·)

/-- Only paths refer to files of the project. The compiled name of a file may stand for its
source. -/
def search (file spec : String) : List Probe :=
  let bare := withoutQuery spec
  if isRelative bare then
    match besides? file bare with
    | none => []
    | some base =>
      let compiled := [".js", ".jsx", ".mjs"].findSome? fun tail => withoutTail? tail base
      Probe.candidates base extensions indexFiles ++
        (compiled.map fun stem => Probe.candidates stem ["ts", "tsx", "mts"] []).getD []
  else []

end Javascript

namespace Python

def extensions : List String := ["py", "pyi"]

def indexFiles : List String := ["__init__.py", "__init__.pyi"]

/-- Leading dots climb from the package of the file. An absolute name is looked for beside the file,
then from the root, then in the usual source directories. -/
def search (file spec : String) : List Probe :=
  let cs := spec.toList.filter fun c => !Chars.isBlank c
  let level := (cs.takeWhile (· == '.')).length
  let rest := dotsToSlashes (cs.drop level)
  let modules (base : String) := Probe.candidates base extensions indexFiles
  if 0 < level then
    match Path.above (Path.parent file) (level - 1) with
    | none => []
    | some dir =>
      if rest.isEmpty then indexFiles.map fun index => .path (Path.within dir index)
      else modules (Path.within dir rest)
  else
    modules (Path.within (Path.parent file) rest) ++ modules rest ++ modules ("src/" ++ rest) ++
      modules ("lib/" ++ rest)

end Python

namespace Go

/-- Source files other than tests. -/
def isSource (path : String) : Bool :=
  Text.endsWith ".go" path && !Text.endsWith "_test.go" path

/-- What follows each slash of a text, longest first. -/
def tailsBehindSlash : List Char → List (List Char)
  | [] => []
  | c :: rest => if c == '/' then rest :: tailsBehindSlash rest else tailsBehindSlash rest

/-- A package is a directory: the one at a relative path, else the longest end of the import path
that is one. -/
def search (file spec : String) : List Probe :=
  let bare := Chars.dropTail (· == '/') spec.toList
  let package (dir : String) : Probe := .sourceIn dir isSource
  if isRelative (String.ofList bare) then
    ((besides? file (String.ofList bare)).map package).toList
  else
    let dirs := (bare :: tailsBehindSlash bare).filter fun dir => !dir.isEmpty
    dirs.map fun dir => package (String.ofList dir)

end Go

namespace Java

/-- A class, or the class that a static member belongs to. A whole package is no file. -/
def search (spec : String) : List Probe :=
  if Text.endsWith ".*" spec then []
  else
    let segments := Text.segments '.' spec
    let counts := (List.range segments.length).reverse.take 2
    counts.map fun count => .tail (Text.join '/' (segments.take (count + 1)) ++ ".java")

end Java

namespace CSharp

/-- A type of that name, else the first file in the directory of the namespace; leading segments
may be missing from the directory as long as two are left. -/
def search (spec : String) : List Probe :=
  let cs := spec.toList
  let target := ((Chars.cut? ['='] cs).map fun (_, behind) => Chars.trim behind).getD cs
  let segments := (((Chars.splitOn '.' target).map Chars.trim).filter fun s => !s.isEmpty).map
    String.ofList
  if segments.isEmpty then []
  else
    let starts := List.range (segments.length - min segments.length 2 + 1)
    .tail (Text.join '/' segments ++ ".cs") :: starts.map fun start =>
      .sourceInTail (Text.join '/' (segments.drop start)) (Text.endsWith ".cs")

end CSharp

namespace CFamily

/-- Beside the file, from the root, in the usual directories, then anywhere. -/
def search (file spec : String) : List Probe :=
  ((besides? file spec).map Probe.path).toList ++
    [.path spec, .path ("include/" ++ spec), .path ("src/" ++ spec), .tail spec]

end CFamily

namespace Ruby

/-- Beside the file, in `lib`, then anywhere. -/
def search (file spec : String) : List Probe :=
  let scripts (base : String) := Probe.candidates base ["rb"] []
  ((besides? file spec).map scripts).getD [] ++ scripts ("lib/" ++ spec) ++
    [.tail (if Text.endsWith ".rb" spec then spec else spec ++ ".rb")]

end Ruby

namespace Php

/-- A path refers to a file beside this one. A namespaced name refers to a file whose path ends in
its segments; leading ones may be missing as long as two are left. -/
def search (file spec : String) : List Probe :=
  if spec.toList.contains '/' || Text.endsWith ".php" spec then
    ((besides? file spec).map fun base => Probe.candidates base ["php"] []).getD []
  else
    let segments := Text.segments '\\' spec
    (List.range (segments.length - 1)).map fun start =>
      .tail (Text.join '/' (segments.drop start) ++ ".php")

end Php

namespace Lua

/-- A dotted name beside the file, then from the root. -/
def search (file spec : String) : List Probe :=
  let rest := dotsToSlashes spec.toList
  let modules (base : String) := Probe.candidates base ["lua"] ["init.lua"]
  modules (Path.within (Path.parent file) rest) ++ modules rest

end Lua

namespace Asset

/-- Whether an address leads outside of the project, or inside of the document. -/
def isForeign (spec : String) : Bool :=
  Text.contains "://" spec || Text.startsWith "//" spec || Text.startsWith "#" spec ||
    Text.startsWith "data:" spec || Text.startsWith "mailto:" spec

/-- Addresses in markup and style sheets are paths. -/
def search (file spec : String) : List Probe :=
  if isForeign spec then []
  else ((besides? file (withoutQuery spec)).map Probe.path).toList

end Asset

/-- The search for what a file imports. -/
def search (family : Family) (file spec : String) (known : KnownFiles) : List Probe :=
  match family with
  | .javascript => Javascript.search file spec
  | .python => Python.search file spec
  | .rust => Module.search file spec known
  | .go => Go.search file spec
  | .java => Java.search spec
  | .cfamily => CFamily.search file spec
  | .csharp => CSharp.search spec
  | .ruby => Ruby.search file spec
  | .php => Php.search file spec
  | .lua => Lua.search file spec
  | .markup | .style => Asset.search file spec

/-- The known file that an import in `file` refers to. Nothing when it lies outside of the project
or is the file itself. -/
def resolve (family : Family) (file spec : String) (known : KnownFiles) : Option String :=
  let bare := Text.trim spec
  if bare.isEmpty then none
  else ((search family file bare known).findSome? (Probe.find? known)).filter (· != file)

end SourceAtlas.Import
