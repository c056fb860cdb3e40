/-!
# Faults of a script

What can be wrong with a line, and the error that says on which line it is.
-/

namespace StoryPlayer.Script

/-- What is wrong with a line. -/
inductive Fault where
  /-- A label line without a label. -/
  | emptyLabel
  /-- A tag without a name. -/
  | emptyTag
  /-- An inline tag that is not closed; `tag` is the rest of the line. -/
  | unterminatedTag (tag : String)
  /-- A quotation that is not closed, and the key it is the value of. -/
  | unterminatedQuote (key : String)
  /-- A character that cannot stand where it does. -/
  | unexpectedChar (c : Char)
  deriving DecidableEq, Repr

/-- The first fault of a script and the number of its line, counted from 1. -/
structure Error where
  line : Nat
  fault : Fault
  deriving DecidableEq, Repr

/-- The wording of a fault. -/
def Fault.message : Fault → String
  | .emptyLabel => "empty label"
  | .emptyTag => "tag has no name"
  | .unterminatedTag tag => s!"unterminated tag `[{tag}`"
  | .unterminatedQuote key => s!"unterminated quoted value for `{key}`"
  | .unexpectedChar c => s!"unexpected `{c}`"

/-- The wording of an error. -/
def Error.message (e : Error) : String := s!"line {e.line}: {e.fault.message}"

end StoryPlayer.Script
