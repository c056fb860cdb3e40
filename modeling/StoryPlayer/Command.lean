/-!
# Commands

One intent of the reader, whatever device it came from. What a key means is up to the engine.
-/

namespace StoryPlayer

inductive Command where
  /-- A key, by its name. -/
  | key (name : String)
  /-- A press of the pointer, anywhere. -/
  | pointer
  deriving DecidableEq, Repr

/-- The name that an engine knows a command by. -/
def Command.name : Command → String
  | .key name => name
  | .pointer => "MouseClick"

end StoryPlayer
