import SourceAtlas.Assembly
import SourceAtlas.CommandLine
import SourceAtlas.Discovery.Basic
import SourceAtlas.Json.Text
import SourceAtlas.LogFilter
import SourceAtlas.Rank

/-! Running commands over a tree of files and its history. A project is analyzed into its graph,
ranked as the options ask, and what is printed is a JSON value or a report of what went wrong. -/
namespace SourceAtlas

namespace Analysis

/-- The ranks of a graph as the options ask. -/
def rank (valid : ValidOptions) (history : History) (graph : Graph) : RankedGraph :=
  let scores := match valid.ranking with
    | .pageRank => PageRank.scores graph valid.options.damping valid.options.iterations
    | .gitChanges => ChangeFrequency.scores graph history valid.options.gitMaxCommits
  RankedGraph.attach graph scores

/-- The ranked graph of some files, and the books of its assembly. -/
def ofFiles (valid : ValidOptions) (history : History) (files : List SourceFile) :
    RankedGraph × AssemblyStats :=
  let assembled := Assembly.run files valid.options.maxWorkers
  (rank valid history assembled.graph, assembled.stats)

end Analysis

/-! What a command prints. -/

/-- The books as an object. -/
def AssemblyStats.toJson (s : AssemblyStats) : Json :=
  .object [("filesSeen", .ofNat s.filesSeen), ("filesExtracted", .ofNat s.filesExtracted),
    ("filesSkipped", .ofNat s.filesSkipped), ("filesFailed", .ofNat s.filesFailed),
    ("nodes", .ofNat s.nodes), ("edges", .ofNat s.edges),
    ("relationsDropped", .ofNat s.relationsDropped)]

/-- An edge as an object. -/
def Edge.toJson (e : Edge) : Json :=
  .object [("fromId", .string e.fromId), ("toId", .string e.toId), ("kind", .string e.kind.name)]

/-- A ranked graph as an object: symbols and ranks by id, and the edges in order. -/
def RankedGraph.toJson (r : RankedGraph) : Json :=
  .object [("nodes", .object (r.graph.table.symbols.map fun s => (s.id, s.toJson))),
    ("edges", .array (r.graph.edges.map Edge.toJson)),
    ("ranks", .object (r.ranks.map fun (id, rank) => (id, .ofFloat rank)))]

/-- A language as an object. -/
def Language.toJson (language : Language) : Json :=
  .object [("name", .string language.name),
    ("extensions", .array (language.extensions.map .string))]

/-- Why a run failed. -/
inductive RunError where
  | options (error : OptionsError)
  | discovery (error : DiscoveryError)
deriving Repr, DecidableEq

namespace Report

/-- A text whose lines behind the first are indented by `width` spaces. -/
def indent (width : Nat) (text : String) : String :=
  let margin := List.replicate width ' '
  String.ofList (text.toList.flatMap fun c => if c == '\n' then c :: margin else [c])

/-- The causes below a message: a single one stands alone, several are numbered. -/
def causes : List String → String
  | [] => ""
  | [cause] => "\n\nCaused by:\n    " ++ indent 4 cause
  | causes =>
    let numbered := causes.zipIdx.map fun (cause, i) =>
      let number := toString i
      let margin := String.ofList (List.replicate (5 - number.length) ' ')
      "\n" ++ margin ++ number ++ ": " ++ indent 7 cause
    "\n\nCaused by:" ++ String.join numbered

/-- The report of an error: the message, and below it what led to it. -/
def failure (message : String) (led : List String) : String :=
  "Error: " ++ message ++ causes led

/-- The report of a failed run. -/
def ofError : RunError → String
  | .options error => failure error.message []
  | .discovery error =>
    failure "analysis failed" ("discovery failed" :: error.message :: error.cause?.toList)

/-- The highest ranks, with the books and the digest. -/
def top (valid : ValidOptions) (ranked : RankedGraph) (stats : AssemblyStats) (count : Nat) :
    Json :=
  let entry : Symbol × Float → Json := fun (s, rank) =>
    .object [("id", .string s.id), ("kind", .string s.kind.name), ("name", .string s.name),
      ("filePath", .string s.filePath), ("rank", .ofFloat rank)]
  .object [("stats", stats.toJson), ("digest", .string ranked.graph.digest),
    ("ranking", .string valid.ranking.name), ("top", .array ((ranked.top count).map entry))]

/-- The languages and their extensions. -/
def languages : Json :=
  .array (Language.all.map Language.toJson)

/-- A value as it is printed, with its keys in order. -/
def print (pretty : Bool) (json : Json) : String :=
  if pretty then json.sortKeys.pretty else json.sortKeys.compact

end Report

/-- What a command comes to. -/
inductive CommandResult where
  | printed (text : String)
  | failed (report : String)
  | misused
deriving Repr, DecidableEq

/-- The exit code: zero for success, one for a failure and two for a wrong use. -/
def CommandResult.code : CommandResult → Nat
  | printed _ => 0
  | failed _ => 1
  | misused => 2

/-- The files, the history and the environment that a command runs in. -/
structure Surroundings where
  tree : FileTree
  history : History := History.missing
  env : List (String × String) := []

namespace Run

/-- Finds the files that the options ask for, and analyzes them. -/
def found (valid : ValidOptions) (around : Surroundings) :
    Except DiscoveryError (RankedGraph × AssemblyStats) :=
  return Analysis.ofFiles valid around.history
    (← Discovery.sources around.tree around.env valid.options)

/-- Analyzes a project with options that may not be valid. -/
def analyze (options : RunOptions) (around : Surroundings) :
    Except RunError (ValidOptions × RankedGraph × AssemblyStats) := do
  let valid ← options.validate.mapError .options
  let result ← (found valid around).mapError .discovery
  return (valid, result)

/-- The value that an analysis prints. The log filter is checked before anything else. -/
def report (flags : AnalyzeFlags) (around : Surroundings) : Except RunError Json := do
  let options := flags.options around.env
  (LogFilter.check around.env options.logLevel).mapError .options
  let (valid, ranked, stats) ← analyze options around
  return match flags.top with
    | some count => Report.top valid ranked stats count
    | none => ranked.toJson

/-- Runs a command. -/
def command (around : Surroundings) : Command → CommandResult
  | .languages => .printed (Report.print true Report.languages)
  | .analyze flags => match report flags around with
    | .ok json => .printed (Report.print flags.pretty json)
    | .error error => .failed (Report.ofError error)

/-- Runs the command of a command line. -/
def commandLine (around : Surroundings) (arguments : List String) : CommandResult :=
  match CommandLine.parse? arguments with
  | some c => command around c
  | none => .misused

end Run
end SourceAtlas
