import StoryPlayer.Config
import StoryPlayer.Controller.Room
import StoryPlayer.Device.Binding
import StoryPlayer.Terminal

/-!
# The full-screen player

The player mounts a story: it makes a controller, binds the terminal's input to it and has it load
the story in the background. It then takes whatever comes next, in any order: an event of the
terminal, a view it has not drawn yet, or the result of loading. The reload key mounts the story
anew. Whatever happens, it gives the terminal back at the end.
-/

namespace StoryPlayer

open Device (Event KeyEvent)

/-- Why the player stopped. -/
inductive PlayError where
  | terminal (e : SurfaceError)
  | bind (e : SurfaceError)
  | event (e : SurfaceError)
  deriving DecidableEq, Repr

/-- The wording of an error. -/
def PlayError.message : PlayError → String
  | .terminal e => e.message
  | .bind e => "failed to bind input: " ++ e.message
  | .event e => "failed to read terminal event: " ++ e.message

/-- How far the loading of the mounted story has come, as far as the player has noticed. -/
inductive LoadState where
  | loading
  | loaded
  | failed (reason : String)
  deriving DecidableEq, Repr

/-- A player on its screen. -/
structure App (σ : Type) where
  resource : String
  bindings : KeyBindings
  /-- Routes the terminal's events to the controller of the mounted story. -/
  dispatcher : Dispatcher TerminalInput Unit
  /-- The controller of the mounted story and the attempt to load it. -/
  room : Room σ
  reader : Reader
  /-- Whether the result of loading has still to be noticed. -/
  awaiting : Bool
  state : LoadState
  /-- Rooms of earlier mounts. -/
  earlier : List (Room σ)

/-- Something that happens to the player. -/
inductive Happening (σ : Type) where
  /-- The terminal reports an event. -/
  | event (e : Event)
  /-- The terminal has a new size. -/
  | sized (size : Screen.Size)
  /-- The loading of the mounted story goes on, with what the engine is able to read by now. -/
  | work (engine : Engine σ)
  /-- The loading of an earlier mount goes on. -/
  | strayWork (mount : Nat) (engine : Engine σ)
  /-- The player looks for a view that it has not drawn. -/
  | notice
  /-- The player looks for the result of loading. -/
  | join

/-- Whether the player goes on. -/
inductive Flow where
  | goOn
  | stop
  deriving DecidableEq, Repr

namespace App

variable {σ : Type} [Session σ]

def terminal (a : App σ) : Terminal := a.dispatcher.surface.terminal

def withTerminal (a : App σ) (t : Terminal) : App σ :=
  { a with dispatcher := { a.dispatcher with surface := { a.dispatcher.surface with terminal := t } } }

/-! ## Drawing -/

/-- What the status says. -/
def status (a : App σ) : String :=
  match a.state with
  | .loading => s!"loading {a.resource}…"
  | .loaded =>
    let resource := a.room.controller.resource?.getD a.resource
    let count := a.room.controller.board.count
    s!"{resource} | {count} updates"
  | .failed reason => s!"not loaded: {reason} | {a.bindings.reload} to retry"

/-- What there is to draw on a screen of this size. -/
def picture (a : App σ) (size : Screen.Size) : Picture :=
  ⟨a.room.controller.board.current, a.bindings, a.status, size⟩

/-- Draw everything. -/
def redraw (a : App σ) : Except PlayError Unit × App σ :=
  match a.terminal.perform .readSize with
  | (.error e, t) => (.error (.terminal e), a.withTerminal t)
  | (.ok (), t) =>
    let (result, t') := t.perform (.draw (a.picture t.size))
    (result.mapError .terminal, a.withTerminal t')

/-- Draw everything and go on. -/
def redrawn (a : App σ) : Except PlayError Flow × App σ :=
  match a.redraw with
  | (.ok (), a) => (.ok .goOn, a)
  | (.error e, a) => (.error e, a)

/-! ## Mounting -/

/-- The one caller that asks a mounted controller to load. -/
def loader : CallerId := 0

/-- A controller that is asked to load a story, and has not begun to. -/
def roomFor (resource : String) : Room σ :=
  { Room.ofController .fresh with waiting := [(loader, resource)] }

/-- Mount the story over a terminal. The room that was mounted before goes on by itself. -/
def mount (a : App σ) (t : Terminal) : Except PlayError Flow × App σ :=
  let unbound : Dispatcher TerminalInput Unit := .unbound ⟨t, false⟩
  match unbound.bind () with
  | (.error e, dispatcher) => (.error (.bind e), { a with dispatcher })
  | (.ok (), dispatcher) =>
    let room : Room σ := roomFor a.resource
    { a with
      dispatcher, room
      reader := .subscribe room.controller.board
      awaiting := true
      state := .loading }.redrawn

/-- A player that has not mounted anything yet. -/
def blank (resource : String) (bindings : KeyBindings) (t : Terminal) : App σ :=
  { resource, bindings
    dispatcher := .unbound ⟨t, false⟩
    room := .ofController .fresh
    reader := .subscribe .fresh
    awaiting := false
    state := .loading
    earlier := [] }

/-- A room whose mount has been given up. It goes on by itself as long as there is somebody in it who
loads, and then it is closed for good. -/
def abandon (r : Room σ) : Room σ :=
  if r.isBusy then r
  else { r with controller := { r.controller with board := r.controller.close, active := none } }

/-- Give up the mount and mount the story anew. -/
def remount (a : App σ) : Except PlayError Flow × App σ :=
  { a with earlier := a.earlier ++ [abandon a.room] }.mount a.dispatcher.release.terminal

/-! ## What happens -/

/-- Whether a key event ends the player: the quit key, or `Ctrl-c`. -/
def isQuit (b : KeyBindings) (k : KeyEvent) : Bool :=
  (k.code = .char 'c' && k.modifiers.control) || Device.answersTo k b.quit

/-- Hand an event to the mounted controller if it carries a command. -/
def dispatch (a : App σ) (e : Event) : App σ :=
  match a.dispatcher.deliver? e with
  | some ((), c) =>
    { a with room := { a.room with controller := (a.room.controller.handle c).1 } }
  | none => a

/-- Take an event: the player's own keys and changes of size are not handed on. -/
def takeEvent (a : App σ) (e : Event) : Except PlayError Flow × App σ :=
  match e with
  | .key k =>
    if isQuit a.bindings k then (.ok .stop, a)
    else if Device.answersTo k a.bindings.reload then
      if k.kind = .press then a.remount else (.ok .goOn, a)
    else (.ok .goOn, a.dispatch e)
  | .resize _ _ => a.redrawn
  | _ => (.ok .goOn, a.dispatch e)

/-- The result of loading, once there is one that has not been noticed. -/
def result? (a : App σ) : Option (Except LoadError LoadOutcome) :=
  if a.awaiting then
    match a.room.answerOf? loader with
    | some (.loaded result) => some result
    | _ => none
  else none

/-- What the result of loading means for the player. -/
def stateOf : Except LoadError LoadOutcome → LoadState
  | .ok _ => .loaded
  | .error e => .failed e.chain

/-- One happening. -/
def step (a : App σ) : Happening σ → Except PlayError Flow × App σ
  | .event e =>
    match a.terminal.perform .readEvent with
    | (.error err, t) => (.error (.event err), a.withTerminal t)
    | (.ok (), t) => (a.withTerminal t).takeEvent e
  | .sized size => (.ok .goOn, a.withTerminal { a.terminal with size })
  | .work engine => (.ok .goOn, { a with room := a.room.step engine })
  | .strayWork mount engine =>
    (.ok .goOn, { a with earlier := a.earlier.modify mount fun r => abandon (r.step engine) })
  | .notice =>
    if a.reader.hasNews a.room.controller.board then
      { a with reader := .subscribe a.room.controller.board }.redrawn
    else (.ok .goOn, a)
  | .join =>
    match a.result? with
    | some result => { a with awaiting := false, state := stateOf result }.redrawn
    | none => (.ok .goOn, a)

/-- Take happenings until the player stops or the terminal has no more to report. -/
def loop (a : App σ) : List (Happening σ) → Except PlayError Unit × App σ
  | [] => (.ok (), a)
  | h :: hs =>
    match a.step h with
    | (.error e, a) => (.error e, a)
    | (.ok .stop, a) => (.ok (), a)
    | (.ok .goOn, a) => a.loop hs

/-! ## From start to end -/

/-- Take the terminal over, as far as it goes. -/
def acquire (t : Terminal) : Except PlayError Unit × Terminal :=
  match t.perform .enableRawMode with
  | (.error e, t) => (.error (.terminal e), t)
  | (.ok (), t) =>
    let (result, t) := t.perform (.write [.enterAlternateScreen, .hideCursor, .clear])
    (result.mapError .terminal, t)

/-- Give the terminal back; what fails of it is passed over. -/
def giveBack (t : Terminal) : Terminal :=
  let (_, t) := t.perform (.write [.showCursor, .leaveAlternateScreen])
  (t.perform .disableRawMode).2

/-- Mount a story and take happenings. -/
def playOn (resource : String) (bindings : KeyBindings) (t : Terminal)
    (happenings : List (Happening σ)) : Except PlayError Unit × App σ :=
  match (blank resource bindings t : App σ).mount t with
  | (.error e, a) => (.error e, a)
  | (.ok _, a) => a.loop happenings

/-- Play a story on a terminal from start to end. -/
def run (resource : String) (bindings : KeyBindings) (t : Terminal)
    (happenings : List (Happening σ)) : Except PlayError Unit × Terminal :=
  match acquire t with
  | (.error e, t) => (.error e, t)
  | (.ok (), t) =>
    let (result, a) := playOn resource bindings t happenings
    (result, giveBack a.dispatcher.release.terminal)

end App

end StoryPlayer
