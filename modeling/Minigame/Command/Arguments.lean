import Minigame.Decimal.Reading
import Minigame.Survival.Simulation

/-! The arguments of the command line. -/

namespace Minigame.Command

open Minigame.Decimal Minigame.Survival

/-- What the program is asked to do. -/
inductive Action where
  | compile (spec : String) (out : Option String)
  | apply (spec patch : String)
  | propose (prompt : String) (spec : Option String) (summary : String)
  | forge (prompts : List String) (out : Option String)
  | simulate (simulation : Simulation)

/-- What the arguments as a whole ask for. -/
inductive Invocation where
  | version
  | help
  | run (config : Option String) (action : Action)

/-- Whether an option needs a value, and may be given more than once. -/
inductive OptionKind where
  | flag
  | single
  | repeated
  deriving DecidableEq

/-- The options a command knows. -/
abbrev OptionTable := List (String × OptionKind)

/-- The options that were given, in order; a flag has no value. -/
abbrev Given := List (String × String)

/-- Whether an argument can be the value of the option in front of it. -/
def isValue (argument : String) : Bool :=
  argument = "-" || argument.toList.head? != some '-'

/-- The name of a long option and the value behind its equals sign. -/
def longOption? (argument : String) : Option (String × Option String) :=
  match argument.toList with
  | '-' :: '-' :: text =>
    let name := String.ofList (text.takeWhile (· ≠ '='))
    match text.dropWhile (· ≠ '=') with
    | _ :: value => some (name, some (String.ofList value))
    | [] => some (name, none)
  | _ => none

/-- Takes the value of an option from behind its name or from the next argument. -/
def takeValue? (attached : Option String) (rest : List String) : Option (String × List String) :=
  match attached, rest with
  | some value, rest => some (value, rest)
  -- What looks like an option is a value only behind an equals sign.
  | none, value :: rest => if isValue value then some (value, rest) else none
  | none, [] => none

/-- The options in the arguments behind the name of a command. -/
def given? (table : OptionTable) : Nat → List String → Option Given
  | 0, _ => none
  | _, [] => some []
  -- Behind two hyphens there could only be arguments without a name, and no command has any.
  | _, ["--"] => some []
  | fuel + 1, argument :: rest => do
    let (name, attached) ← longOption? argument
    match ← table.lookup name with
    | .flag =>
      if attached.isSome then none
      else (given? table fuel rest).map ((name, "") :: ·)
    | _ =>
      let (value, rest) ← takeValue? attached rest
      (given? table fuel rest).map ((name, value) :: ·)

/-- The values given for an option. -/
def Given.values (given : Given) (name : String) : List String :=
  (given.filter (·.1 = name)).map (·.2)

/-- Whether no option is given more often than it may be. -/
def Given.isAllowed (given : Given) (table : OptionTable) : Bool :=
  table.all fun (name, kind) => kind = .repeated || (given.values name).length ≤ 1

/-- The value of an option that may be missing. -/
def Given.optional? (given : Given) (name : String) (read : String → Option α) :
    Option (Option α) :=
  match (given.values name).head? with
  | none => some none
  | some value => (read value).map some

/-- The value of an option that must be there. -/
def Given.required? (given : Given) (name : String) (read : String → Option α) : Option α :=
  (given.values name).head?.bind read

/-- The value of an option with a default. -/
def Given.withDefault? (given : Given) (name : String) (default : α) (read : String → Option α) :
    Option α :=
  (given.optional? name read).map fun value => value.getD default

/-- A path is not empty. -/
def readPath? (text : String) : Option String :=
  if text = "" then none else some text

/-- A whole number of 64 bits without a sign. -/
def readLong? (text : String) : Option Nat :=
  readUnsigned? 64 text.toList

/-- A whole number of 32 bits; a zero may have a minus sign. -/
def readShort? (text : String) : Option Nat :=
  match text.toList with
  | '-' :: digits => (readDigits? digits).filter (· = 0)
  | digits => readUnsigned? 32 digits

/-- The options of all commands. -/
def commonOptions : OptionTable := [("config", .single)]

/-- The options of `compile`. -/
def compileOptions : OptionTable := [("spec", .single), ("out", .single)]

/-- The options of `apply`. -/
def applyOptions : OptionTable := [("spec", .single), ("patch", .single)]

/-- The options of `propose`. -/
def proposeOptions : OptionTable := [("prompt", .single), ("spec", .single), ("summary", .single)]

/-- The options of `forge`. -/
def forgeOptions : OptionTable := [("prompt", .repeated), ("out", .single)]

/-- The options of `simulate`. -/
def simulateOptions : OptionTable :=
  [("interval-ms", .single), ("mode", .single), ("add", .single), ("limit", .single),
   ("hold", .flag), ("seed", .single), ("seconds", .single), ("frame-ms", .single)]

/-- Reads `compile`. -/
def readCompile? (given : Given) : Option Action := do
  let spec ← given.required? "spec" readPath?
  let out ← given.optional? "out" readPath?
  return .compile spec out

/-- Reads `apply`. -/
def readApply? (given : Given) : Option Action := do
  let spec ← given.required? "spec" readPath?
  let patch ← given.required? "patch" readPath?
  return .apply spec patch

/-- Reads `propose`. -/
def readPropose? (given : Given) : Option Action := do
  let prompt ← given.required? "prompt" some
  let spec ← given.optional? "spec" readPath?
  let summary ← given.withDefault? "summary" "" some
  return .propose prompt spec summary

/-- Reads `forge`. -/
def readForge? (given : Given) : Option Action := do
  let out ← given.optional? "out" readPath?
  match given.values "prompt" with
  | [] => none
  | prompts => return .forge prompts out

/-- Reads `simulate`; a duration stops at the largest number of 64 bits. -/
def readSimulate? (given : Given) : Option Action := do
  let intervalMs ← given.withDefault? "interval-ms" 2000 readLong?
  let mode ← given.withDefault? "mode" .doubling SpawnMode.ofName?
  let addPerInterval ← given.optional? "add" readShort?
  let maxConcurrent ← given.withDefault? "limit" 100 readShort?
  let endOnLimit := (given.values "hold").isEmpty
  let seed ← given.withDefault? "seed" 42 readLong?
  let seconds ← given.withDefault? "seconds" 60 readLong?
  let frameMs ← given.withDefault? "frame-ms" 16.0 fun text => readFloat? text.toList
  return .simulate
    { spawn := ⟨mode, intervalMs, addPerInterval⟩
      limit := ⟨maxConcurrent, endOnLimit⟩
      seed
      durationMs := min maxCount (seconds * 1000)
      frameMs }

/-- The options of a command and how it is read. -/
def command? : String → Option (OptionTable × (Given → Option Action))
  | "compile" => some (compileOptions, readCompile?)
  | "apply" => some (applyOptions, readApply?)
  | "propose" => some (proposeOptions, readPropose?)
  | "forge" => some (forgeOptions, readForge?)
  | "simulate" => some (simulateOptions, readSimulate?)
  | _ => none

/-- Reads a command; its own choice of a configuration goes before an earlier one. -/
def readCommand? (config : Option String) (name : String) (arguments : List String) :
    Option Invocation := do
  let (own, read) ← command? name
  let table := commonOptions ++ own
  -- Each step takes an argument at least, so there is fuel for all of them.
  let given ← given? table (arguments.length + 1) arguments
  guard (given.isAllowed table)
  let action ← read given
  let later ← given.optional? "config" readPath?
  return .run (later <|> config) action

/-- What an argument asks for that needs no command. -/
def notice? (argument : String) : Option Invocation :=
  let letter := argument.toList.take 2
  if argument = "--version" ∨ letter = ['-', 'V'] then some .version
  else if argument = "--help" ∨ letter = ['-', 'h'] then some .help
  else none

/-- What `help` explains: the program or one command, of which none has commands of its own. -/
def readHelp? : List String → Option Invocation
  | [] => some .help
  | [name] => if name = "help" ∨ (command? name).isSome then some .help else none
  | _ => none

/-- The arguments from the name of the command on. -/
def fromCommand? (config : Option String) : List String → Option Invocation
  | [] => none
  | "help" :: names => readHelp? names
  | argument :: rest => notice? argument <|> readCommand? config argument rest

/-- The arguments behind the name of the program. -/
def parse? : List String → Option Invocation
  | [] => none
  | argument :: rest =>
    match longOption? argument with
    | some ("config", attached) => do
      let (value, rest) ← takeValue? attached rest
      let config ← readPath? value
      fromCommand? (some config) rest
    | _ => fromCommand? none (argument :: rest)

end Minigame.Command
