import StoryPlayer.Host.Files
import StoryPlayer.Host.Network

/-!
# The surroundings of the player

What the player can look at outside itself: files, the network and the environment.
-/

namespace StoryPlayer.Host

/-- What can be read at one time. -/
structure Sources where
  readFile : Path → Except FileFault Bytes
  request : Network

/-- The sources that some files and a network are. -/
def Sources.of (files : Files) (network : Network) : Sources := ⟨files.read, network⟩

/-- The text of a file; it has to be UTF-8 throughout. -/
def Sources.readText (s : Sources) (path : Path) : Except FileFault String := do
  match Utf8.decode (← s.readFile path) with
  | .ok text => return String.ofList text
  | .error _ => .error .notUtf8

/-- The variables that are set, and their values. -/
abbrev Environment := String → Option Bytes

/-- The value of a variable, if it is a text. -/
def textVariable (env : Environment) (name : String) : Option String :=
  (env name).bind fun value =>
    match Utf8.decode value with
    | .ok text => some (String.ofList text)
    | .error _ => none

end StoryPlayer.Host
