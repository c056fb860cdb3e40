import StoryPlayer.Script.Token
import StoryPlayer.View

/-!
# Playing a story

A story is played from wait to wait: the tags `lr` and `pg` stop it, and the reader's next command
lets it go on. Leaving a `pg` clears the page.
-/

namespace StoryPlayer

open Script (Token Tag Label)

/-- What a story waits for. -/
inductive Wait where
  /-- The end of a line, tag `lr`. -/
  | line
  /-- The end of a page, tag `pg`. -/
  | page
  deriving DecidableEq, Repr

/-- What tokens change: the label last passed, the lines on the page, latest first, and the
scene, whose first image is the background. -/
structure Stage where
  label : Option Label
  lines : List String
  scene : List String
  deriving DecidableEq

namespace Stage

def empty : Stage := ⟨none, [], []⟩

/-- The text on the page, line by line. -/
def text (s : Stage) : List String := s.lines.reverse

/-- What is visible of a stage. -/
def view (s : Stage) : View := ⟨s.text, s.scene⟩

/-- The stage with an empty page. -/
def clearText (s : Stage) : Stage := { s with lines := [] }

/-- The stage with another background, in the place of the one before or as the first image. -/
def setBackground (s : Stage) (image : String) : Stage :=
  { s with
    scene :=
      match s.scene with
      | [] => [image]
      | _ :: others => image :: others }

end Stage

/-- The background that a tag names: its `storage`, or else its `file`. -/
def background? (t : Tag) : Option String := t.get? "storage" <|> t.get? "file"

/-- The wait that a token is. -/
def wait? : Token → Option Wait
  | .tag t => if t.name = "lr" then some .line else if t.name = "pg" then some .page else none
  | _ => none

/-- The stage after a token. Tags that say nothing about the stage leave it alone. -/
def Stage.apply (s : Stage) : Token → Stage
  | .label l => { s with label := some l }
  | .text t => { s with lines := t :: s.lines }
  | .tag t =>
    if t.name = "bg" ∨ t.name = "image" then
      match background? t with
      | some image => s.setBackground image
      | none => s
    else if t.name = "cm" ∨ t.name = "ct" then s.clearText
    else s

/-- A story part way through: the tokens still to come, the stage, and the wait it stopped at. -/
structure Story where
  rest : List Token
  stage : Stage
  waiting : Option Wait

namespace Story

/-- A story before its first token. -/
def ofTokens (tokens : List Token) : Story := ⟨tokens, .empty, none⟩

/-- Play tokens up to the next wait or the end. -/
def play (stage : Stage) : List Token → Story
  | [] => ⟨[], stage, none⟩
  | t :: rest =>
    match wait? t with
    | some w => ⟨rest, stage, some w⟩
    | none => play (stage.apply t) rest

/-- Go on to the next wait or the end. -/
def run (s : Story) : Story := play s.stage s.rest

def isFinished (s : Story) : Bool := s.rest.isEmpty

/-- Leave the wait and go on to the next one, unless the story is over. -/
def advance? (s : Story) : Option Story :=
  if s.isFinished then none
  else some (play (if s.waiting = some .page then s.stage.clearText else s.stage) s.rest)

/-- What is visible. -/
def view (s : Story) : View := s.stage.view

end Story

/-- The names of the commands that move a story on. -/
def advancingNames : List String :=
  ["Enter", " ", "ArrowRight", "ArrowDown", "PageDown", "MouseClick"]

/-- Whether the command of this name moves a story on. -/
def isAdvancing (name : String) : Bool := advancingNames.contains name

end StoryPlayer
