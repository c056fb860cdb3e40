import StoryPlayer.CommandLine

/-!
# The program

Reads what the command line can ask for, and does what it says. There is no way to reach the network
or to take a terminal over from here, so downloads and playing full screen fail as they do where
neither is at hand.
-/

namespace StoryPlayer.Main

open Host (Environment FileFault Path Sources)

/-- The variables that the program looks at. -/
def watched : List String :=
  ["XDG_CONFIG_HOME", "XDG_CACHE_HOME", "HOME", "TMPDIR", "KS_PLAYER_BASE_URL",
    "KS_PLAYER_PROPAGATION"]

def readEnvironment : IO Environment := do
  let values ← watched.mapM fun name => do
    return (name, (← IO.getEnv name).map utf8)
  return fun name => (values.find? fun v => v.1 = name).bind Prod.snd

/-- A failure to use a directory as a file, or a file as a directory. The code of the former is 21,
counted up or down from zero. -/
def typeFault (code : UInt32) : FileFault :=
  if code = 21 ∨ code + 21 = 0 then .isDirectory else .notDirectory

/-- A failure of the system as a fault of a file. -/
def fault : IO.Error → FileFault
  | .noFileOrDirectory .. => .noEntry
  | .inappropriateType _ code _ => typeFault code
  | .alreadyExists .. => .alreadyExists
  | e => .other (toString e)

def readFile (path : String) : IO (Except FileFault Bytes) := do
  try
    return .ok (← IO.FS.readBinFile path).toList
  catch e => return .error (fault e)

/-- Everything that can be asked for: the configuration and the files that arguments name. -/
def readSources (env : Environment) (args : List String) : IO Sources := do
  let config := Host.configFile env
  let files ← (Host.Path.display config :: args).mapM fun path => do
    return (utf8 path, ← readFile path)
  return ⟨fun path => ((files.find? fun f => f.1 = path).map Prod.snd).getD (.error .noEntry),
    .unreachable⟩

/-- The bytes of the input, if the arguments ask for it. -/
def readInput (args : List String) : IO Bytes := do
  if args.head? = some "run" then return (← (← IO.getStdin).readBinToEnd).toList
  else return []

def report (outcome : CommandLine.Outcome) : IO UInt32 := do
  IO.print outcome.stdout
  IO.eprint outcome.stderr
  return outcome.code

def carryOut : CommandLine.Task → IO UInt32
  | .done outcome => report outcome
  | .write path content next => do
    try
      IO.FS.writeFile (Host.Path.display path) content
      report (next (.ok ()))
    catch e => report (next (.error (fault e)))
  | .play logs failed _ => do
    try
      IO.FS.createDirAll (Host.Path.display logs)
      report CommandLine.noTerminal
    catch e => report (failed (fault e))

end StoryPlayer.Main

def main (args : List String) : IO UInt32 := do
  let env ← StoryPlayer.Main.readEnvironment
  let sources ← StoryPlayer.Main.readSources env args
  let stdin ← StoryPlayer.Main.readInput args
  StoryPlayer.Main.carryOut (StoryPlayer.CommandLine.task env sources stdin args)
