import StoryPlayer.Engine.ScriptEngine
import StoryPlayer.Json.Document
import StoryPlayer.Json.Value

/-!
# Configuration

The keys that belong to the player itself, how the engine shows what is visible, and where scripts
come from. A configuration is read from JSON, in which everything may be left out, and then from
environment variables.
-/

namespace StoryPlayer

open Json (Document Value field?)

/-- The bindings of the player's own keys. They never reach the engine. -/
structure KeyBindings where
  quit : String
  reload : String
  deriving DecidableEq, Repr

def KeyBindings.default : KeyBindings := ⟨"Esc", "F5"⟩

structure Config where
  keyBindings : KeyBindings
  propagation : Propagation
  /-- What relative names of scripts are joined to; without it they are paths. -/
  baseUrl : Option String
  deriving DecidableEq, Repr

def Config.default : Config := ⟨.default, .push, none⟩

/-! ## JSON -/

namespace Json

/-- The values of an object's fields of these names, or of a list in their order; what is left out is
`none`. A name that is given twice is refused, and so is a list that is too long. -/
def Value.fieldsNamed? (names : List String) : Value → Option (List (Option Value))
  | .list items =>
    if items.length ≤ names.length then
      some ((List.range names.length).map fun i => items[i]?)
    else none
  | value => do
    let fields ← value.fields?
    names.mapM fun name => field? fields name

end Json

/-- What a value that may be left out gives. -/
def orDefault {α : Type} (default : α) (read : Value → Option α) : Option Value → Option α
  | none => some default
  | some v => read v

def KeyBindings.ofValue? (v : Value) : Option KeyBindings := do
  match ← v.fieldsNamed? ["quit", "reload"] with
  | [quit, reload] =>
    return ⟨← orDefault KeyBindings.default.quit Value.text? quit,
      ← orDefault KeyBindings.default.reload Value.text? reload⟩
  | _ => none

/-- The mode of exactly this name. -/
def Propagation.ofName? (name : String) : Option Propagation :=
  if name = "push" then some .push else if name = "pull" then some .pull else none

/-- A mode is given by its name, or by an object whose only field has this name and says nothing. -/
def Propagation.ofValue? : Value → Option Propagation
  | .text (some name) => ofName? name
  | .object [(some name, .null)] => ofName? name
  | _ => none

/-- A text that may be absent. -/
def optionalText? : Value → Option (Option String)
  | .null => some none
  | .text (some s) => some (some s)
  | _ => none

namespace Config

def ofValue? (v : Value) : Option Config := do
  match ← v.fieldsNamed? ["key_bindings", "propagation", "base_url"] with
  | [keyBindings, propagation, baseUrl] =>
    return ⟨← orDefault Config.default.keyBindings KeyBindings.ofValue? keyBindings,
      ← orDefault Config.default.propagation Propagation.ofValue? propagation,
      ← orDefault none optionalText? baseUrl⟩
  | _ => none

/-- The configuration that a JSON text describes. -/
def ofJson? (s : String) : Option Config := Value.parse? s >>= ofValue?

/-- A configuration as an object; an absent base URL is left out. -/
def toDocument (c : Config) : Document :=
  .object ([
    ("key_bindings",
      .object [("quit", .text c.keyBindings.quit), ("reload", .text c.keyBindings.reload)]),
    ("propagation", .text c.propagation.name)] ++
    c.baseUrl.toList.map fun url => ("base_url", .text url))

/-! ## Environment -/

/-- The configuration with what some variables say instead. An empty base URL and an unknown mode are
passed over. -/
def override (c : Config) (lookup : String → Option String) : Config :=
  let c :=
    match lookup "KS_PLAYER_BASE_URL" with
    | some url => if url = "" then c else { c with baseUrl := some url }
    | none => c
  match (lookup "KS_PLAYER_PROPAGATION").map Propagation.parse with
  | some (.ok propagation) => { c with propagation }
  | _ => c

end Config

/-! ## Where files of the player are -/

namespace Host

/-- A path below another one. -/
def Path.join (base : Path) (name : String) : Path :=
  if base.isEmpty then utf8 name
  else if base.getLast? = some Files.slash then base ++ utf8 name
  else base ++ Files.slash :: utf8 name

/-- The directory of the player below the one that a variable names, or below a directory of the
user's home, or else among temporary files. -/
def ownDirectory (env : Environment) (name fallback : String) : Path :=
  let base :=
    match (env name).filter (· ≠ []), env "HOME" with
    | some dir, _ => dir
    | none, some home => Path.join home fallback
    | none, none => (env "TMPDIR").getD (utf8 "/tmp")
  Path.join base "ks-player"

/-- The file that the configuration is read from. -/
def configFile (env : Environment) : Path :=
  Path.join (ownDirectory env "XDG_CONFIG_HOME" ".config") "player.json"

/-- The directory that logs are written to. -/
def logDirectory (env : Environment) : Path :=
  Path.join (ownDirectory env "XDG_CACHE_HOME" ".cache") "logs"

/-- A path as messages show it. -/
def Path.display (p : Path) : String := String.ofList (Utf8.decodeLenient p)

end Host

namespace Config

/-- The configuration of a process: what its file says, if it can be read and says something, and
then what its environment says. -/
def load (env : Host.Environment) (sources : Host.Sources) : Config :=
  let file :=
    match sources.readText (Host.configFile env) with
    | .ok text => (Config.ofJson? text).getD .default
    | .error _ => .default
  file.override (Host.textVariable env)

/-- The engine that a configuration asks for. -/
def scriptEngine (c : Config) : ScriptEngine := ⟨c.propagation, c.baseUrl⟩

end Config

end StoryPlayer
