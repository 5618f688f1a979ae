import SourceAtlas.Snapshot

/-! The command line program. Source text is parsed elsewhere: the files with their syntax trees,
and the history, are read from standard input as one JSON value. -/
namespace SourceAtlas

/-- The variables that a command reads. -/
def environmentKeys : List String :=
  LogFilter.environmentKey :: RunOptions.environmentKeys ++ UserRules.environmentKeys

end SourceAtlas

open SourceAtlas in
/-- Runs the command of the arguments, prints its result, and gives back the exit code. -/
def main (arguments : List String) : IO UInt32 := do
  let values ← environmentKeys.mapM fun key => do
    return (← IO.getEnv key).map fun value => (key, value)
  let input ← (← IO.getStdin).readToEnd
  let snapshot := if (Text.trim input).isEmpty then some .null else Json.parse? input
  match snapshot.bind (Snapshot.surroundings? (values.filterMap id)) with
  | none => IO.eprintln "Error: the snapshot on standard input cannot be read"; return 1
  | some around =>
    let result := Run.commandLine around arguments
    match result with
    | .printed text => IO.println text
    | .failed report => IO.eprintln report
    | .misused => IO.eprintln "usage: analyze [ROOT] [OPTIONS] | languages"
    return result.code.toUInt32
