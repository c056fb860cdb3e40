import StoryPlayer.Json.Document
import StoryPlayer.Json.Value

/-!
# Views

A view is all that is visible at one time: the lines of dialogue in reading order, and the scene,
whose first entry is the background. A view is always replaced as a whole.
-/

namespace StoryPlayer

structure View where
  text : List String
  scene : List String
  deriving DecidableEq, Repr

namespace View

/-- What every field of the placeholder says. -/
def notLoaded : String := "not loaded"

/-- The view before any story has been loaded. -/
def placeholder : View := ⟨[notLoaded], [notLoaded]⟩

def isPlaceholder (v : View) : Bool := v = placeholder

/-- The background, if the scene has one. -/
def background? (v : View) : Option String := v.scene.head?

/-! ## As JSON -/

open Json (Document Value field?)

/-- A view as an object. -/
def toDocument (v : View) : Document :=
  .object [("text", .list (v.text.map .text)), ("scene", .list (v.scene.map .text))]

/-- The view that a value describes: an object with both fields, once each and among any others, or
the list of their two values. -/
def ofValue? : Value → Option View
  | .list [text, scene] => do return ⟨← text.texts?, ← scene.texts?⟩
  | value => do
    let fields ← value.fields?
    let text ← (← field? fields "text")
    let scene ← (← field? fields "scene")
    return ⟨← text.texts?, ← scene.texts?⟩

/-- The view that a JSON text describes. -/
def ofJson? (s : String) : Option View := Value.parse? s >>= ofValue?

end View

end StoryPlayer
