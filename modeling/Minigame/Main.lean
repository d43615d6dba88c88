import Minigame.Command.Run

/-! The command line program. -/

namespace Minigame.Command

/-- How the program is used. -/
def usage : String :=
  "Usage: gamespec [--config <file>] <command> [options]\n\n"
    ++ "  compile   --spec <file> [--out <file>]\n"
    ++ "  apply     --spec <file> --patch <file>\n"
    ++ "  propose   --prompt <text> [--spec <file>] [--summary <text>]\n"
    ++ "  forge     --prompt <text>... [--out <file>]\n"
    ++ "  simulate  [--interval-ms <n>] [--mode doubling|linear|fixed] [--add <n>] [--limit <n>]\n"
    ++ "            [--hold] [--seed <n>] [--seconds <n>] [--frame-ms <x>]\n"

/-- The files a command reads. -/
def inputs (config : Option String) (action : Action) : List String :=
  config.toList ++
    match action with
    | .compile spec _ => [spec]
    | .apply spec patch => [spec, patch]
    | .propose _ spec _ => spec.toList
    | .forge .. => []
    | .simulate _ => []

/-- The environment variables that settings are read from. -/
def variableNames : List String :=
  ["ANTHROPIC_API_KEY", "ANTHROPIC_MODEL", "ANTHROPIC_BASE_URL", "INTENT_TIMEOUT_MS",
   "PROPOSAL_TTL_SECS", "PROPOSAL_CACHE_CAPACITY"]

/-- A service that cannot be reached: this program opens no connections. -/
def unreachable (settings : ProposalSettings) : Proposal.Service :=
  ⟨settings.model, fun _ => .failed (.transport "no connection")⟩

/-- Reads the files that can be read. -/
def readFiles (paths : List String) : IO (List (String × String)) := do
  let mut files := []
  for path in paths do
    match ← (IO.FS.readFile path).toBaseIO with
    | .ok text => files := (path, text) :: files
    | .error _ => pure ()
  return files

/-- Reads the variables that are set. -/
def readVariables : IO (List (String × String)) := do
  let mut environment := []
  for name in variableNames do
    if let some value ← IO.getEnv name then environment := (name, value) :: environment
  return environment

/-- Prints or writes what a command brings forth. -/
def deliver : Output → IO UInt32
  | .print text => do
    IO.print text
    return 0
  | .write path text => do
    match ← (IO.FS.writeFile path text).toBaseIO with
    | .ok _ => return 0
    | .error _ =>
      IO.eprintln ("Error: writing " ++ path)
      return 1

end Minigame.Command

open Minigame.Command in
/-- Runs the program: status 1 tells that a command failed and 2 that the arguments are wrong. -/
def main (arguments : List String) : IO UInt32 := do
  match parse? arguments with
  | none =>
    IO.eprint usage
    return 2
  | some .version =>
    IO.println versionText
    return 0
  | some .help =>
    IO.print usage
    return 0
  | some (.run config action) =>
    let files ← readFiles (inputs config action)
    let environment ← readVariables
    match run ⟨(files.lookup ·), (environment.lookup ·), unreachable⟩ config action with
    | .ok output => deliver output
    | .error failure =>
      IO.eprintln ("Error: " ++ failure.message)
      return 1
