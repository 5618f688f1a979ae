import SourceAtlas.Discovery.RuleFiles
import SourceAtlas.Options

/-! Finding the source files of a project. An entry is looked at only when neither it nor a
directory above it, up to the root, is skipped. -/
namespace SourceAtlas

/-- Why no files can be looked for. -/
inductive DiscoveryError where
  | rootNotFound (root : String)
  | notADirectory (root : String)
  | invalidPattern (pattern : String) (fault : Glob.Fault)
  | nestedPattern (patterns : List String) (fault : Glob.DepthFault)
deriving Repr, DecidableEq

namespace DiscoveryError

/-- The text of the error. -/
def message : DiscoveryError → String
  | rootNotFound root => "root path " ++ root ++ " does not exist"
  | notADirectory root => "root path " ++ root ++ " is not a directory"
  | invalidPattern pattern _ => "invalid glob pattern `" ++ pattern ++ "`"
  | nestedPattern patterns _ => "invalid glob pattern `" ++ " ".intercalate patterns ++ "`"

/-- The text of what led to the error. -/
def cause? : DiscoveryError → Option String
  | rootNotFound _ | notADirectory _ => none
  | invalidPattern pattern fault =>
    let line := String.ofList (IgnoreRule.trimLine pattern.toList)
    some ("error parsing glob '" ++ line ++ "': " ++ fault.message)
  | nestedPattern _ fault => some fault.message

end DiscoveryError

/-- What is asked for: rules whose verdict is the other way round, so that a plain glob keeps. -/
structure Selection where
  rules : IgnoreRules

namespace Selection

/-- The lines of a selection: the globs to include, and after them the globs to ignore, marked. -/
def lines (included ignored : List String) : List String :=
  included ++ ignored.map ("!" ++ ·)

/-- The rule of a line. -/
def rule (line : String) : Except DiscoveryError (Option IgnoreRule) :=
  (IgnoreRule.parse false line.toList).mapError (.invalidPattern line)

/-- The selection of some globs. The first glob that is not valid is reported; when each of them is,
they also have to work together. -/
def ofGlobs (included ignored : List String) : Except DiscoveryError Selection := do
  let rules ← (lines included ignored).mapM rule
  let rules : IgnoreRules := rules.filterMap id
  match rules.depthFault? with
  | some fault => throw (.nestedPattern (included ++ ignored) fault)
  | none => return ⟨rules⟩

/-- The verdict on an entry. When anything is included, a file that no rule matches is skipped. -/
def verdict? (selection : Selection) (path : List Char) (isDirectory : Bool) : Option Verdict :=
  match selection.rules.verdict? path isDirectory with
  | some verdict => some verdict.inverse
  | none =>
    if !isDirectory && selection.rules.any (·.verdict == .skip) then some .skip else none

end Selection

/-- A search for files: among what, where and how the root is written, under which rules, and
whether directories may have their own. -/
structure Search where
  tree : FileTree
  root : List (List Char)
  rootPath : List Char
  selection : Selection
  ruleFiles : Bool
  userRules : IgnoreRules := []

namespace Search

/-- The path of the entry with these names below the root. -/
def entryPath (search : Search) (names : List (List Char)) : List Char :=
  names.foldl EntryPath.child search.rootPath

/-- The path of an entry without the dot it may start with. -/
def shortPath (search : Search) (names : List (List Char)) : List Char :=
  EntryPath.dropHere (search.entryPath names)

/-- The directories that lead to a place, the nearest first. -/
def above (names : List (List Char)) : List (List (List Char)) :=
  (List.range names.length).reverse.map names.take

/-- The path of an entry as the rules of a directory see it: below the root as it is written, and
above the root from that directory on. -/
def pathFrom (search : Search) (names dir : List (List Char)) : List Char :=
  if search.root.length ≤ dir.length then
    EntryPath.seenFrom (search.entryPath (dir.drop search.root.length)) (search.shortPath names)
  else Chars.join '/' ((search.root ++ names).drop dir.length)

/-- The verdict on an entry of the rules of one kind: that of the nearest directory which has
one. -/
def sourceVerdict? (search : Search) (names : List (List Char)) (isDirectory : Bool)
    (source : RuleSource) : Option Verdict :=
  (above (search.root ++ names)).findSome? fun dir =>
    (source.rules search.tree dir).verdict? (search.pathFrom names dir) isDirectory

/-- The verdict on an entry. A selection comes before every rule file, and the rules of the user
come last. -/
def verdict? (search : Search) (names : List (List Char)) (isDirectory : Bool) : Option Verdict :=
  let path := search.shortPath names
  (search.selection.verdict? (EntryPath.seenFrom search.rootPath path) isDirectory).or
    (if search.ruleFiles then
      (RuleSource.all.findSome? (search.sourceVerdict? names isDirectory)).or
        (search.userRules.verdict? (EntryPath.dropHere path) isDirectory)
    else none)

/-- Whether a name starts with a dot. -/
def isHidden (name : List Char) : Bool :=
  name.head? == some '.'

/-- Whether an entry is passed over. Without a verdict that is so for a hidden one, and the data of
version control is passed over whatever the verdict. -/
def skips (search : Search) (names : List (List Char)) (isDirectory : Bool) : Bool :=
  names.getLast? == some ".git".toList ||
    match search.verdict? names isDirectory with
    | some verdict => verdict == .skip
    | none => names.getLast?.any isHidden

/-- Whether the search comes to the file with these names below the root: no entry on the way to it
is passed over. -/
def reachesBelow (search : Search) (names : List (List Char)) : Bool :=
  (List.range names.length).all fun length =>
    !search.skips (names.take (length + 1)) (length + 1 < names.length)

/-- Whether the search comes to a file: it lies below the root, which has to be a directory to look
into, and can be reached from there. -/
def reaches (search : Search) (names : List (List Char)) : Bool :=
  !EntryPath.isStandardInput search.rootPath && search.root.isPrefixOf names &&
    search.root.length < names.length && search.reachesBelow (names.drop search.root.length)

/-- The source file of a stored file: one with a registered extension, of at most `limit` bytes, and
of valid text. Its path starts at the root. -/
def source? (search : Search) (limit : Nat) (file : StoredFile) : Option SourceFile :=
  let path := String.ofList (Chars.join '/' (file.names.drop search.root.length))
  if (Language.ofPath? path).isSome && file.bytes.size ≤ limit then
    (String.fromUTF8? file.bytes).map fun content => ⟨path, content, file.rows⟩
  else none

/-- The source files that the search comes to, by path. -/
def sources (search : Search) (limit : Nat) : List SourceFile :=
  let reached := search.tree.files.filter fun file => search.reaches file.names
  (reached.filterMap (search.source? limit)).mergeSort fun a b => decide (a.path ≤ b.path)

end Search

namespace Discovery

/-- The search that the options ask for. The root has to be a directory. -/
def search (tree : FileTree) (env : List (String × String)) (options : RunOptions) :
    Except DiscoveryError Search := do
  match tree.locate? options.root.toList with
  | none => throw (.rootNotFound options.root)
  | some root =>
    if tree.kind? root != some .directory then throw (.notADirectory options.root)
    let selection ← Selection.ofGlobs options.include_ options.ignore
    return {
      tree, root, selection
      rootPath := options.root.toList
      ruleFiles := !options.noGitignore
      userRules := UserRules.ofEnvironment tree env }

/-- The source files that the options ask for. -/
def sources (tree : FileTree) (env : List (String × String)) (options : RunOptions) :
    Except DiscoveryError (List SourceFile) :=
  return (← search tree env options).sources options.maxFileSize

end Discovery
end SourceAtlas
