import StoryPlayer.App

/-!
# Screenings

A screening plays a story on a terminal that never fails and watches the frames. It goes from cue to
cue: at each one something is done to the player, and then a frame with a certain status is waited
for.
-/

namespace StoryPlayer

open Device (Event)

/-- One cue of a screening. -/
structure Cue (σ : Type) where
  /-- What the engine is able to read from here on. -/
  engine : Engine σ
  /-- Whether that is something new. -/
  changed : Bool
  /-- A new size of the terminal. -/
  size : Option Screen.Size
  events : List Event
  /-- What the status of the frame has to contain. -/
  awaited : String

/-- Whether something is done at a cue. -/
def Cue.acts {σ : Type} (c : Cue σ) : Bool := c.changed || c.size.isSome || !c.events.isEmpty

/-- How a screening ended. -/
inductive ScreeningEnd where
  /-- All frames came, and the player was told to quit. -/
  | finished (t : Terminal)
  /-- A frame did not come. -/
  | missed (t : Terminal)

structure Screening (σ : Type) where
  app : App σ
  /-- How many pictures have been gone through. -/
  seen : Nat
  /-- The pictures that were waited for. -/
  shown : List Picture

/-- Whether a text stands somewhere within another one. -/
def occursIn (text : List Char) : List Char → Bool
  | [] => text.isEmpty
  | c :: cs => text.isPrefixOf (c :: cs) || occursIn text cs

namespace Screening

variable {σ : Type} [Session σ]

/-- One happening, after which nothing is left to do. -/
def act (engine : Engine σ) (a : App σ) (h : Happening σ) : App σ :=
  let a := (a.step h).2
  let a := { a with room := a.room.settle engine }
  ((a.step .notice).2.step .join).2

/-- What happens at a cue: the terminal's new size if it differs from the old one, and then the
events. -/
def happenings (a : App σ) (c : Cue σ) : List (Happening σ) :=
  let resizing :=
    match c.size with
    | some size =>
      if size = a.terminal.size then []
      else [.sized size, .event (.resize size.width size.height)]
    | none => []
  resizing ++ c.events.map .event

/-- The first picture from a place on whose status contains a text, and its place. -/
def find? (pictures : List Picture) (start : Nat) (awaited : String) : Option (Nat × Picture) :=
  let found := (pictures.zipIdx.drop start).find? fun (p, _) =>
    occursIn awaited.toList (" " ++ p.status ++ " ").toList
  found.map fun (p, i) => (i, p)

/-- Do what a cue asks for and wait for its frame. -/
def take (s : Screening σ) (c : Cue σ) : Except Terminal (Screening σ) :=
  let start := if c.acts then s.app.terminal.pictures.length else s.seen
  let app := (happenings s.app c).foldl (act c.engine) s.app
  match find? app.terminal.pictures start c.awaited with
  | some (i, p) => .ok ⟨app, i + 1, s.shown ++ [p]⟩
  | none => .error app.terminal

/-- Go from cue to cue, and then send the last event. -/
def follow (s : Screening σ) (last : Event) : List (Cue σ) → List Picture × ScreeningEnd
  | [] =>
    let a := (s.app.step (.event last)).2
    (s.shown, .finished (App.giveBack a.dispatcher.release.terminal))
  | c :: cs =>
    match s.take c with
    | .ok s => s.follow last cs
    | .error t => (s.shown, .missed t)

/-- Show a story. -/
def run (engine : Engine σ) (resource : String) (bindings : KeyBindings) (t : Terminal)
    (cues : List (Cue σ)) (last : Event) : List Picture × ScreeningEnd :=
  let (_, t) := App.acquire t
  let a := ((App.blank resource bindings t : App σ).mount t).2
  let s : Screening σ := ⟨act engine a (.sized t.size), 0, []⟩
  s.follow last cues

end Screening

/-- What is written before the first frame, up to the question whether key releases can be
reported. -/
def Terminal.opening : String :=
  Screen.Ansi.render [.enterAlternateScreen, .hideCursor, .clear, .enableMouse, .askKeyboard]

end StoryPlayer
