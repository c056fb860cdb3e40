import StoryPlayer.Config
import StoryPlayer.LineMode

/-!
# The command line

What the program does for its arguments, as far as it can be said without doing it: what it writes to
its output and error streams, which file it wants written, and how it ends.
-/

namespace StoryPlayer.CommandLine

open Host (Environment FileFault Path Sources)

def playUsage : String := "ks-player play <script.ks>"
def runUsage : String := "ks-player run <script.ks>"
def inspectUsage : String := "ks-player inspect <script.ks> [output.json]"

def usage : String :=
  "ks-player, a terminal host for KS scripts\n\nUsage:\n  " ++ playUsage ++ "\n  " ++ runUsage ++
    "\n  " ++ inspectUsage

/-- What a process leaves behind. -/
structure Outcome where
  code : UInt32
  stdout : String
  stderr : String
  deriving DecidableEq, Repr

def success (stdout : String) : Outcome := ⟨0, stdout, ""⟩

/-- The outcome of an error, which is told on the error stream. -/
def failure (stdout message : String) : Outcome := ⟨1, stdout, "Error: " ++ message ++ "\n"⟩

/-- What is to be done for some arguments. -/
inductive Task where
  | done (outcome : Outcome)
  /-- Write a file; how that goes decides the outcome. -/
  | write (path : Path) (content : String) (next : Except FileFault Unit → Outcome)
  /-- Make a directory for logs; if that goes well, play a story full screen. -/
  | play (logs : Path) (failed : FileFault → Outcome) (resource : String)

/-- Drive a session from the lines of the input. -/
def runLines (config : Config) (sources : Sources) (script : String) (stdin : Bytes) : Outcome :=
  let (desk, result) := LineMode.run (config.scriptEngine.engine sources) script stdin
  match result with
  | .ok () => success desk.printed
  | .error fault => failure desk.printed ("Failed to drive the session: " ++ fault.message)

/-- List the tokens of a script. -/
def inspect (config : Config) (sources : Sources) (script : String) (output : Option String) : Task :=
  match config.scriptEngine.load sources script with
  | .error e => .done (failure "" ("Failed to load " ++ script ++ ": " ++ e.chain))
  | .ok tokens =>
    let json := (Script.Token.listDocument tokens).pretty
    match output with
    | none => .done (success (json ++ "\n"))
    | some path =>
      .write (utf8 path) json fun result =>
        match result with
        | .error fault => failure "" ("Failed to write " ++ path ++ ": " ++ fault.message)
        | .ok () =>
          ⟨0, "", s!"Wrote {tokens.length} tokens from {script} -> {path}\n"⟩

/-- What is to be done for some arguments, given everything that can be read. -/
def task (env : Environment) (sources : Sources) (stdin : Bytes) : List String → Task
  | "play" :: script :: _ =>
    let logs := Host.logDirectory env
    .play logs
      (fun fault => failure "" ("Failed to create " ++ Path.display logs ++ ": " ++ fault.message))
      script
  | ["play"] => .done (failure "" playUsage)
  | "run" :: script :: _ => .done (runLines (.load env sources) sources script stdin)
  | ["run"] => .done (failure "" runUsage)
  | "inspect" :: script :: rest => inspect (.load env sources) sources script rest.head?
  | ["inspect"] => .done (failure "" inspectUsage)
  | _ => .done (failure "" usage)

/-- The outcome of playing full screen where there is no terminal. -/
def noTerminal : Outcome := failure "" "No such device or address (os error 6)"

/-- Do what is to be done among some files, where there is no terminal. -/
def Task.carryOut (t : Task) (files : Host.Files) : Outcome × Host.Files :=
  match t with
  | .done outcome => (outcome, files)
  | .write path content next =>
    match files.write path (utf8 content) with
    | .ok files => (next (.ok ()), files)
    | .error fault => (next (.error fault), files)
  | .play logs failed _ =>
    match files.makeDirectories logs with
    | .ok files => (noTerminal, files)
    | .error fault => (failed fault, files)

end StoryPlayer.CommandLine
