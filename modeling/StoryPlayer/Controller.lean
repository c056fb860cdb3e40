import StoryPlayer.Board
import StoryPlayer.Engine.Session

/-!
# The controller

The controller owns the one session of a player. It loads a story once, hands commands to its session
and publishes what the session shows. Each attempt to load gets a gate of its own, so that nothing an
attempt pushes is seen before it has succeeded, and nothing of a failed attempt ever is.
-/

namespace StoryPlayer

/-- A call that a session receives. -/
inductive SessionCall where
  | evaluate (c : Command)
  | lineCount
  | line (index : Nat)
  | image (index : Nat)
  deriving DecidableEq, Repr

/-! ## Reading a session -/

/-- Reading that keeps account of the calls it makes, latest first. -/
abbrev Reading := StateM (List SessionCall)

namespace Accessors

def readLineCount (a : Accessors) : Reading Nat := do
  modify (.lineCount :: ·)
  return a.lineCount

def readLine (a : Accessors) (index : Nat) : Reading String := do
  modify (.line index :: ·)
  return a.line index

def readImage (a : Accessors) (index : Nat) : Reading (Option String) := do
  modify (.image index :: ·)
  return a.image index

/-- Read everything that is visible: the number of lines once, then the lines in order, then the
first image, which is the background. -/
def readView (a : Accessors) : Reading View := do
  let count ← a.readLineCount
  let text ← (List.range count).mapM a.readLine
  let background ← a.readImage 0
  return ⟨text, background.toList⟩

end Accessors

/-! ## The controller -/

/-- A session, the name of the story it was loaded from, and the gate it pushes through. -/
structure Active (σ : Type) where
  resource : String
  session : σ
  gate : GateId

structure Controller (σ : Type) where
  board : Board
  active : Option (Active σ)
  /-- The calls that sessions have received, latest first. -/
  received : List SessionCall

/-- How a request to load ended well. -/
inductive LoadOutcome where
  /-- This request made the session. -/
  | started
  /-- There was a session already. -/
  | alreadyActive
  deriving DecidableEq, Repr

/-- What became of a command. -/
inductive InputOutcome where
  | evaluated
  /-- There is no session; the command is dropped. -/
  | ignored
  deriving DecidableEq, Repr

namespace Controller

variable {σ : Type} [Session σ]

/-- A controller that shows the placeholder. -/
def fresh : Controller σ := ⟨.fresh, none, []⟩

def isLoaded (c : Controller σ) : Bool := c.active.isSome

/-- The calls that sessions have received, in order. -/
def calls (c : Controller σ) : List SessionCall := c.received.reverse

/-- The name of the story that is loaded. -/
def resource? (c : Controller σ) : Option String := c.active.map Active.resource

/-- How many attempts to load there have been. -/
def attempts (c : Controller σ) : Nat := c.board.gates.length

/-- Push a view on the sink of an attempt. -/
def push (c : Controller σ) (gate : GateId) (v : View) : Controller σ :=
  { c with board := c.board.offer gate v }

/-- Publish what can be read of a session, if it lets itself be read. -/
def rebuild (c : Controller σ) (session : σ) : Controller σ :=
  match Session.accessors? session with
  | none => c
  | some a =>
    let (v, received) := a.readView.run c.received
    { c with board := c.board.publish v, received }

/-! ### Loading -/

/-- Open the gate of a new attempt. -/
def openAttempt (c : Controller σ) : GateId × Controller σ :=
  (c.board.openGate.1, { c with board := c.board.openGate.2 })

/-- End an attempt. A failed one closes its gate and leaves everything else as it was. -/
def conclude (c : Controller σ) (gate : GateId) (resource : String) :
    Except LoadError σ → Controller σ × Except LoadError LoadOutcome
  | .error e => ({ c with board := c.board.revoke gate }, .error e)
  | .ok session =>
    let c := { c with board := c.board.arm gate }
    let c := c.rebuild session
    ({ c with active := some ⟨resource, session, gate⟩ }, .ok .started)

/-- Follow an attempt to its end. -/
def follow (c : Controller σ) (gate : GateId) (resource : String) :
    Loading σ → Controller σ × Except LoadError LoadOutcome
  | .ready session => c.conclude gate resource (.ok session)
  | .failed e => c.conclude gate resource (.error e)
  | .push v next => (c.push gate v).follow gate resource next
  | .suspend next => c.follow gate resource next

/-- Load a story unless there is a session already. -/
def load (c : Controller σ) (engine : Engine σ) (resource : String) :
    Controller σ × Except LoadError LoadOutcome :=
  if c.isLoaded then (c, .ok .alreadyActive)
  else
    let (gate, c') := c.openAttempt
    c'.follow gate resource (engine.start c.attempts resource)

/-! ### Commands -/

/-- Hand a command to the session, and publish what it shows afterwards. -/
def handle (c : Controller σ) (command : Command) : Controller σ × InputOutcome :=
  match c.active with
  | none => (c, .ignored)
  | some a =>
    let (session, views) := Session.evaluate a.session command
    let c :=
      { c with
        received := .evaluate command :: c.received
        active := some { a with session } }
    let c := views.foldl (fun c v => c.push a.gate v) c
    (c.rebuild session, .evaluated)

/-- The board that is left when the controller is given up: the session can push no more. -/
def close (c : Controller σ) : Board :=
  match c.active with
  | some a => c.board.revoke a.gate
  | none => c.board

end Controller

end StoryPlayer
