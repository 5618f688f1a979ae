import SourceAtlas.SyntaxTree

/-! The files below a working directory, and how the paths of its entries are written. A directory
exists when a file lies below it. -/
namespace SourceAtlas

/-- A file as it is stored. The rows are those of the syntax tree of its text. -/
structure StoredFile where
  path : String
  bytes : ByteArray
  rows : Array SyntaxRow := #[]

/-- The names on the way from the working directory to the file. -/
def StoredFile.names (file : StoredFile) : List (List Char) :=
  (Path.pieces file.path).filter Path.isName

/-- What stands at a place. -/
inductive EntryKind where
  | file
  | directory
deriving Repr, DecidableEq

/-- Files at different places. -/
structure FileTree where
  files : List StoredFile
  distinct : files.Pairwise fun a b => a.names ≠ b.names

namespace FileTree

def empty : FileTree :=
  ⟨[], .nil⟩

/-- Stores a file, in place of the one that stood there. -/
def insert (tree : FileTree) (file : StoredFile) : FileTree where
  files := file :: tree.files.filter fun other => other.names ≠ file.names
  distinct := by
    refine List.pairwise_cons.mpr ⟨fun other member => ?_, tree.distinct.filter _⟩
    have differs := (List.mem_filter.mp member).2
    exact fun same => of_decide_eq_true differs same.symm

/-- The tree of some files; a later one replaces an earlier one at its place. -/
def ofList (files : List StoredFile) : FileTree :=
  files.foldl insert empty

/-- The file at a place. -/
def file? (tree : FileTree) (names : List (List Char)) : Option StoredFile :=
  tree.files.find? (·.names == names)

/-- What stands at a place. The working directory itself always exists. -/
def kind? (tree : FileTree) (names : List (List Char)) : Option EntryKind :=
  if (tree.file? names).isSome then some .file
  else if names.isEmpty || tree.files.any fun file => names.isPrefixOf file.names then
    some .directory
  else none

/-- The place reached by one piece of a path, from a place that has to be a directory. An empty
piece and a dot stay there, and a double dot leaves it but not the working directory. -/
def step (tree : FileTree) (place : List (List Char)) (piece : List Char) :
    Option (List (List Char)) :=
  if tree.kind? place != some .directory then none
  else if piece.isEmpty || piece == ['.'] then some place
  else if piece == ['.', '.'] then if place.isEmpty then none else some place.dropLast
  else if (tree.kind? (place ++ [piece])).isSome then some (place ++ [piece])
  else none

/-- The place that a relative path leads to. -/
def locate? (tree : FileTree) (path : List Char) : Option (List (List Char)) :=
  if path.isEmpty || path.head? == some '/' then none
  else (Chars.splitOn '/' path).foldlM tree.step []

/-- The file that a relative path leads to. -/
def fileAt? (tree : FileTree) (path : List Char) : Option StoredFile :=
  (tree.locate? path).bind tree.file?

end FileTree
end SourceAtlas

/-! Paths of entries as they are written. A search starts from a root that may be written in several
ways, and its entries carry that spelling, because rules are matched against the written path. -/
namespace SourceAtlas.EntryPath

/-- The path of an entry of a directory. -/
def child (dir name : List Char) : List Char :=
  if dir.isEmpty || dir.getLast? == some '/' then dir ++ name else dir ++ '/' :: name

/-- A path without the dot and the slash that it starts with. -/
def dropHere : List Char → List Char
  | '.' :: '/' :: rest => rest
  | path => path

/-- Whether a path is a dot, with nothing behind it that leads anywhere. -/
def isHere (path : List Char) : Bool :=
  match Chars.splitOn '/' path with
  | first :: rest => first == ['.'] && rest.all fun piece => piece.isEmpty || piece == ['.']
  | [] => false

/-- Whether a path names the standard input, which holds no entries. -/
def isStandardInput (path : List Char) : Bool :=
  match Chars.splitOn '/' path with
  | first :: rest => first == ['-'] && rest.all fun piece => piece.isEmpty || piece == ['.']
  | [] => false

/-- A path as it is seen from a directory. A name alone stays as it is, and so does a path that does
not start with the directory as it is written. -/
def seenFrom (dir path : List Char) : List Char :=
  let dir := dropHere dir
  let path := dropHere path
  if isHere dir || !path.contains '/' then path
  else match dir.isPrefixOf? path with
    | some ('/' :: rest) => rest
    | some rest => rest
    | none => path

end SourceAtlas.EntryPath
