import SourceAtlas.Json.Basic
import SourceAtlas.Symbol.Json
import SourceAtlas.Text

/-! The options of a run: their defaults, where they are read from, and what makes them valid. -/
namespace SourceAtlas

/-- How symbols are ranked. -/
inductive Ranking where
  | pageRank
  | gitChanges
deriving Repr, DecidableEq

/-- The written name. -/
def Ranking.name : Ranking → String
  | pageRank => "pagerank"
  | gitChanges => "git-changes"

/-- Options that cannot be run with. -/
inductive OptionsError where
  | unknownRanking (text : String)
  | invalidMaxWorkers (count : Nat)
  | invalidLogLevel (text : String)
deriving Repr, DecidableEq

/-- The text of the error. -/
def OptionsError.message : OptionsError → String
  | unknownRanking text =>
    "unknown ranking strategy `" ++ text ++ "` (expected `pagerank` or `git-changes`)"
  | invalidMaxWorkers count => "max_workers must be at least 1, got " ++ toString count
  | invalidLogLevel text => "invalid log level `" ++ text ++ "`"

/-- The ranking with a name, in any case and with white space around it. -/
def Ranking.parse (text : String) : Except OptionsError Ranking :=
  match Text.lower (Text.trim text) with
  | "pagerank" => .ok pageRank
  | "git-changes" => .ok gitChanges
  | _ => .error (.unknownRanking text)

/-- The options of a run, as given. -/
structure RunOptions where
  root : String := "."
  include_ : List String := []
  ignore : List String := []
  noGitignore : Bool := false
  ranking : String := "pagerank"
  maxWorkers : Nat := 1
  logLevel : String := "info"
  maxFileSize : Nat := 1048576
  gitMaxCommits : Nat := 1000
  damping : Float := 0.85
  iterations : Nat := 100

/-- Options that passed the checks. -/
structure ValidOptions where
  options : RunOptions
  ranking : Ranking

namespace RunOptions

/-- The bound of a number in bits. -/
def numberBits : Nat := 64

/-- A number written in decimal digits, with a plus sign or none, that fits the bound. -/
def number? (text : String) : Option Nat :=
  let unsigned := match text.toList with
    | '+' :: rest => rest
    | cs => cs
  (Chars.digits? unsigned).filter (· < Nat.pow 2 numberBits)

/-- The variables that set options. -/
def environmentKeys : List String :=
  ["SYMGRAPH_RANKING", "SYMGRAPH_LOG", "SYMGRAPH_MAX_WORKERS", "SYMGRAPH_MAX_FILE_SIZE",
    "SYMGRAPH_GIT_MAX_COMMITS"]

/-- The options with those that the environment sets. A number that cannot be read changes
nothing. -/
def withEnvironment (o : RunOptions) (env : List (String × String)) : RunOptions :=
  let number (key : String) (current : Nat) := ((env.lookup key).bind number?).getD current
  { o with
    ranking := (env.lookup "SYMGRAPH_RANKING").getD o.ranking
    logLevel := (env.lookup "SYMGRAPH_LOG").getD o.logLevel
    maxWorkers := number "SYMGRAPH_MAX_WORKERS" o.maxWorkers
    maxFileSize := number "SYMGRAPH_MAX_FILE_SIZE" o.maxFileSize
    gitMaxCommits := number "SYMGRAPH_GIT_MAX_COMMITS" o.gitMaxCommits }

/-- Checks what can be checked without looking at files: the ranking, then the number of workers,
then the log level. -/
def validate (o : RunOptions) : Except OptionsError ValidOptions := do
  let ranking ← Ranking.parse o.ranking
  if o.maxWorkers == 0 then throw (.invalidMaxWorkers o.maxWorkers)
  if (Text.trim o.logLevel).isEmpty then throw (.invalidLogLevel o.logLevel)
  return ⟨o, ranking⟩

/-- The names of the fields, in order. -/
def fieldNames : List String :=
  ["root", "include", "ignore", "no_gitignore", "ranking_strategy", "max_workers", "log_level",
    "max_file_size", "git_max_commits", "pagerank_damping", "pagerank_iterations"]

/-- Reads options from an object, or from a list of values in the order of the fields. Missing
fields have their defaults, fields with other names are passed over, and a value that does not fit
is refused. -/
def ofJson? (json : Json) : Option RunOptions := do
  let json ← json.record? fieldNames
  let o : RunOptions := {}
  let texts := Json.readList Json.text?
  let count := Json.nat? numberBits
  some {
    root := ← json.readOr "root" o.root Json.text?
    include_ := ← json.readOr "include" o.include_ texts
    ignore := ← json.readOr "ignore" o.ignore texts
    noGitignore := ← json.readOr "no_gitignore" o.noGitignore Json.bool?
    ranking := ← json.readOr "ranking_strategy" o.ranking Json.text?
    maxWorkers := ← json.readOr "max_workers" o.maxWorkers count
    logLevel := ← json.readOr "log_level" o.logLevel Json.text?
    maxFileSize := ← json.readOr "max_file_size" o.maxFileSize count
    gitMaxCommits := ← json.readOr "git_max_commits" o.gitMaxCommits count
    damping := ← json.readOr "pagerank_damping" o.damping fun value =>
      value.number?.map JsonNumber.toFloat
    iterations := ← json.readOr "pagerank_iterations" o.iterations count }

end RunOptions
end SourceAtlas
