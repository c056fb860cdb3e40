import StoryPlayer.Script.TextLine

/-!
# Reading scripts

A script is read line by line. A line that is blank or begins with `;` carries nothing. A line that
begins with `*` is a label, `*label|heading`; one that begins with a lone `@` is a tag; any other
line is a text line. Blanks around a line do not count.
-/

namespace StoryPlayer.Script

open Text (trim lines)

/-- The label of a label line, given what follows its `*`. The heading is the label unless another
one is given. -/
def Label.ofLine (rest : List Char) : Except Fault Label :=
  let label := trim (rest.takeWhile (· ≠ '|'))
  let heading := trim ((rest.dropWhile (· ≠ '|')).drop 1)
  if label.isEmpty then .error .emptyLabel
  else .ok ⟨String.ofList label, String.ofList (if heading.isEmpty then label else heading)⟩

/-- Whether a line without blanks around it carries tokens. -/
def isSignificant (line : List Char) : Bool := !line.isEmpty && line.head? ≠ some ';'

/-- The tokens of a significant line without blanks around it. -/
def significantTokens : List Char → Except Fault (List Token)
  | '*' :: rest => do return [.label (← Label.ofLine rest)]
  | '@' :: '@' :: rest => textLine ('@' :: '@' :: rest)
  | '@' :: rest => do return [.tag (← Tag.ofBody rest)]
  | line => textLine line

/-- The tokens of a line. -/
def lineTokens (line : List Char) : Except Fault (List Token) :=
  if isSignificant (trim line) then significantTokens (trim line) else .ok []

/-- The tokens of some lines, the first of which has this number. -/
def tokensFrom (number : Nat) : List (List Char) → Except Error (List Token)
  | [] => .ok []
  | line :: rest => do
    let here ← (lineTokens line).mapError (Error.mk number)
    let there ← tokensFrom (number + 1) rest
    return here ++ there

/-- The tokens of a script, or its first fault. -/
def parse (script : String) : Except Error (List Token) := tokensFrom 1 (lines script.toList)

end StoryPlayer.Script
