import SourceAtlas.Options

/-! The command line. Arguments are read one after the other, and an option that takes a value waits
for the argument behind it. -/
namespace SourceAtlas

/-- What the command line asks an analysis to do. -/
structure AnalyzeFlags where
  root : Option String := none
  include_ : List String := []
  ignore : List String := []
  noGitignore : Bool := false
  ranking : Option String := none
  maxWorkers : Option Nat := none
  logLevel : Option String := none
  top : Option Nat := none
  pretty : Bool := false
deriving Repr, DecidableEq

/-- A command. -/
inductive Command where
  | analyze (flags : AnalyzeFlags)
  | languages
deriving Repr, DecidableEq

/-- The options of a run: the defaults, then what the environment sets, then what the command line
asks for. -/
def AnalyzeFlags.options (flags : AnalyzeFlags) (env : List (String × String)) : RunOptions :=
  let o := ({ root := flags.root.getD "." } : RunOptions).withEnvironment env
  { o with
    include_ := flags.include_
    ignore := flags.ignore
    noGitignore := o.noGitignore || flags.noGitignore
    ranking := flags.ranking.getD o.ranking
    maxWorkers := flags.maxWorkers.getD o.maxWorkers
    logLevel := flags.logLevel.getD o.logLevel }

namespace CommandLine

/-- An option that takes a value. -/
inductive ValueOption where
  | include_
  | ignore
  | ranking
  | maxWorkers
  | logLevel
  | top
deriving Repr, DecidableEq

/-- An option that is either given or not. -/
inductive Switch where
  | noGitignore
  | pretty
deriving Repr, DecidableEq

/-- The option with a written name. -/
def ValueOption.ofName? : String → Option ValueOption
  | "include" => some include_
  | "ignore" => some ignore
  | "ranking" => some ranking
  | "max-workers" => some maxWorkers
  | "log-level" => some logLevel
  | "top" => some top
  | _ => none

/-- The switch with a written name. -/
def Switch.ofName? : String → Option Switch
  | "no-gitignore" => some noGitignore
  | "pretty" => some pretty
  | _ => none

/-- A value for something that has at most one. -/
def once (current : Option α) (value : Option α) : Option (Option α) :=
  match current with
  | none => value.map some
  | some _ => none

/-- Gives a value to an option. Only globs may be given more than once. -/
def setOption (flags : AnalyzeFlags) (option : ValueOption) (value : String) :
    Option AnalyzeFlags :=
  match option with
  | .include_ => some { flags with include_ := flags.include_ ++ [value] }
  | .ignore => some { flags with ignore := flags.ignore ++ [value] }
  | .ranking => (once flags.ranking (some value)).map fun ranking => { flags with ranking }
  | .maxWorkers => (once flags.maxWorkers (RunOptions.number? value)).map fun maxWorkers =>
      { flags with maxWorkers }
  | .logLevel => (once flags.logLevel (some value)).map fun logLevel => { flags with logLevel }
  | .top => (once flags.top (RunOptions.number? value)).map fun top => { flags with top }

/-- Turns a switch on, which is possible once. -/
def setSwitch (flags : AnalyzeFlags) : Switch → Option AnalyzeFlags
  | .noGitignore => if flags.noGitignore then none else some { flags with noGitignore := true }
  | .pretty => if flags.pretty then none else some { flags with pretty := true }

/-- Takes the root, of which there is at most one. -/
def setRoot (flags : AnalyzeFlags) (root : String) : Option AnalyzeFlags :=
  if flags.root.isSome || root.isEmpty then none else some { flags with root := some root }

/-- What was read of the arguments of an analysis. -/
structure Reader where
  flags : AnalyzeFlags := {}
  waiting : Option ValueOption := none
  onlyRoots : Bool := false

namespace Reader

/-- An option with its name and the value that is attached to it. -/
def option (r : Reader) (name : List Char) (attached : Option (List Char)) : Option Reader :=
  match ValueOption.ofName? (String.ofList name), attached with
  | some option, none => some { r with waiting := some option }
  | some option, some value =>
    (setOption r.flags option (String.ofList value)).map fun flags => { r with flags }
  | none, none => do
    let switch ← Switch.ofName? (String.ofList name)
    some { r with flags := ← setSwitch r.flags switch }
  | none, some _ => none

/-- One argument. A hyphen alone is no option, and behind two hyphens nothing is one. -/
def step (r : Reader) (argument : String) : Option Reader :=
  let root := (setRoot r.flags argument).map fun flags => { r with flags }
  if r.onlyRoots then root
  else match r.waiting, argument.toList with
    | none, ['-', '-'] => some { r with onlyRoots := true }
    | none, '-' :: '-' :: rest =>
      match Chars.cut? ['='] rest with
      | some (name, value) => r.option name (some value)
      | none => r.option rest none
    | _, '-' :: _ :: _ => none
    | none, _ => root
    | some option, _ =>
      (setOption r.flags option argument).map fun flags => { r with flags, waiting := none }

end Reader

/-- The flags of an analysis. -/
def flags? (arguments : List String) : Option AnalyzeFlags := do
  let r ← arguments.foldlM Reader.step {}
  if r.waiting.isSome then none else some r.flags

/-- The command of a command line. -/
def parse? : List String → Option Command
  | "analyze" :: arguments => (flags? arguments).map .analyze
  | ["languages"] | ["languages", "--"] => some .languages
  | _ => none

end CommandLine
end SourceAtlas
