import SourceAtlas.Text

/-! The files an import may refer to. They are kept in increasing order, so where several files
would do, it is always the same one that is found. -/
namespace SourceAtlas

/-- The paths of a project, increasing. -/
structure KnownFiles where
  paths : List String
deriving Repr, DecidableEq

namespace KnownFiles

/-- The files with these paths. -/
def ofList (paths : List String) : KnownFiles :=
  ⟨Sorted.ofTexts paths⟩

def contains (known : KnownFiles) (path : String) : Bool :=
  known.paths.contains path

/-- The files directly inside a directory. -/
def inDirectory (known : KnownFiles) (dir : String) : List String :=
  known.paths.filter (Path.parent · == dir)

/-- The file whose path is `tail`, else the first one whose path ends in `tail` behind a slash.
Leading slashes of `tail` do not count. -/
def endingIn? (known : KnownFiles) (tail : String) : Option String :=
  let bare := String.ofList (tail.toList.dropWhile (· == '/'))
  if bare.isEmpty then none
  else if known.contains bare then some bare
  else known.paths.find? (Text.endsWith ("/" ++ bare))

end KnownFiles

/-! One attempt to find an imported file. A search is a list of probes, and the first that finds
something decides. -/

/-- An attempt to find a file: the file at a path, a file whose path ends in some segments, the
first source file of a directory, or the first one of any directory whose path ends in some
segments. -/
inductive Probe where
  | path (path : String)
  | tail (segments : String)
  | sourceIn (dir : String) (isSource : String → Bool)
  | sourceInTail (segments : String) (isSource : String → Bool)

namespace Probe

/-- The known file that a probe finds. -/
def find? (known : KnownFiles) : Probe → Option String
  | path p => if known.contains p then some p else none
  | tail segments => known.endingIn? segments
  | sourceIn dir isSource => (known.inDirectory dir).find? isSource
  | sourceInTail segments isSource => known.paths.find? fun p => isSource p &&
      (Path.parent p == segments || Text.endsWith ("/" ++ segments) (Path.parent p))

/-- The path as it is, then with each extension, then each index file inside it. -/
def candidates (base : String) (extensions indexFiles : List String) : List Probe :=
  if base.isEmpty then []
  else path base :: (extensions.map fun ext => path (base ++ "." ++ ext)) ++
    indexFiles.map fun index => path (base ++ "/" ++ index)

end Probe
end SourceAtlas

/-! Where Rust modules are. The children of a module stand in the directory named like its file, or
in its own directory if the file is the root of a crate or of a directory. -/
namespace SourceAtlas.Import.Module

/-- The directory that holds the children of the module in a file. -/
def childDirectory (path : String) : String :=
  let stem := Path.stem path
  if ["lib", "main", "mod"].contains stem then Path.parent path
  else Path.within (Path.parent path) stem

/-- A directory and the directories around it, innermost first, up to the root. -/
def upward (dir : String) : List String :=
  let pieces := Path.pieces dir
  ((List.range (pieces.length + 1)).map fun count =>
    String.ofList (Chars.join '/' (pieces.take count))).reverse

/-- The nearest directory around a file that holds the root of a crate; for want of one, `src` if
anything is in there, else the root of the project. -/
def crateRoot (file : String) (known : KnownFiles) : String :=
  let holdsRoot (dir : String) :=
    known.contains (Path.within dir "lib.rs") || known.contains (Path.within dir "main.rs")
  match (upward (Path.parent file)).find? holdsRoot with
  | some dir => dir
  | none => if known.paths.any (Text.startsWith "src/") then "src" else ""

/-- The file of the longest lead of the segments that names a module below `dir`. -/
def probes (dir : String) (segments : List String) : List Probe :=
  ((List.range segments.length).reverse.map fun count =>
    Probe.candidates (Path.within dir (Text.join '/' (segments.take (count + 1)))) ["rs"]
      ["mod.rs"]).flatten

/-- The segments of a path divided by double colons, trimmed; empty ones are dropped. -/
def splitColons : List Char → List (List Char)
  | [] => [[]]
  | ':' :: ':' :: rest => [] :: splitColons rest
  | c :: rest => match splitColons rest with
    | [] => [[c]]
    | piece :: pieces => (c :: piece) :: pieces

/-- The segments that a use declaration names first: what stands before a renaming, a group or a
glob. -/
def segments (spec : String) : List String :=
  let cs := Chars.trim spec.toList
  let cs := ((Chars.cut? " as ".toList cs).map (·.1)).getD cs
  let cs := Chars.before (· == '\x7b') cs
  let cs := Chars.dropEnd "::".toList (Chars.dropEnd "::*".toList (Chars.trim cs))
  (((splitColons cs).map Chars.trim).filter fun s => !s.isEmpty).map String.ofList

/-- From a directory one level up for each leading `super`. -/
def climb (dir : String) : List String → List Probe
  | [] => probes dir []
  | segment :: rest =>
    if segment == "super" then climb (Path.parent dir) rest else probes dir (segment :: rest)

/-- The search for the module of a use declaration or of a module declaration, which is a single
segment. -/
def search (file spec : String) (known : KnownFiles) : List Probe :=
  match segments spec with
  | [] => []
  | first :: rest =>
    if first == "crate" then probes (crateRoot file known) rest
    else if first == "self" then probes (childDirectory file) rest
    else if first == "super" then climb (Path.parent (childDirectory file)) rest
    else if rest.isEmpty then probes (childDirectory file) [first]
    else probes (crateRoot file known) (first :: rest)

end SourceAtlas.Import.Module
