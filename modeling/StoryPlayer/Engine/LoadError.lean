import StoryPlayer.Host
import StoryPlayer.Script.Fault

/-!
# Errors of loading

Why a story could not be loaded.
-/

namespace StoryPlayer

open Host (FileFault HttpFault)

inductive LoadError where
  | fetch (path : String) (fault : FileFault)
  | http (url : String) (fault : HttpFault)
  | parse (resource : String) (error : Script.Error)
  | emptyScript (resource : String)
  | engine (reason : String)
  deriving DecidableEq, Repr

namespace LoadError

/-- The wording of an error by itself. -/
def message : LoadError → String
  | .fetch path _ => s!"failed to read script {path}"
  | .http url _ => s!"failed to download script {url}"
  | .parse resource _ => s!"failed to parse script {resource}"
  | .emptyScript resource => s!"script {resource} contains no tokens"
  | .engine reason => s!"engine construction failed: {reason}"

/-- The wordings of what lies behind an error. -/
def causes : LoadError → List String
  | .fetch _ fault => [fault.message]
  | .http _ fault => fault.causes
  | .parse _ error => [error.message]
  | .emptyScript _ | .engine _ => []

/-- The wording of an error with all that lies behind it. -/
def chain (e : LoadError) : String := ": ".intercalate (e.message :: e.causes)

end LoadError

end StoryPlayer
