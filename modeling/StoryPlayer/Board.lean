import StoryPlayer.View

/-!
# Publishing views

The board keeps the views that have been published on it: everyone sees the latest one, and a view
is counted when it is published. Views reach the board directly or through gates: a gate keeps the
latest view offered to it until it is armed, passes views on while it is armed, and drops them for
good once it is revoked. Whoever offers views holds a sink, which names its gate. A reader knows which
publication it has seen.
-/

namespace StoryPlayer

inductive Gate where
  /-- Not decided yet; `held` is the latest view offered. -/
  | pending (held : Option View)
  | armed
  | revoked
  deriving DecidableEq, Repr

/-- The place of a gate on its board. -/
abbrev GateId := Nat

/-- Where an engine pushes views. -/
inductive Sink where
  /-- Discards everything. -/
  | detached
  | gate (id : GateId)
  deriving DecidableEq, Repr

structure Board where
  /-- The views that have been published, the latest first. -/
  published : List View
  gates : List Gate

namespace Board

/-- A board on which nothing has been published. -/
def fresh : Board := ⟨[], []⟩

/-- The view that everyone sees. -/
def current (b : Board) : View := b.published.headD .placeholder

/-- How many views have been published. -/
def count (b : Board) : Nat := b.published.length

/-- Replace the view that everyone sees. -/
def publish (b : Board) (v : View) : Board := { b with published := v :: b.published }

/-- Add a gate that is pending. -/
def openGate (b : Board) : GateId × Board :=
  (b.gates.length, { b with gates := b.gates ++ [.pending none] })

def setGate (b : Board) (id : GateId) (g : Gate) : Board := { b with gates := b.gates.set id g }

/-- Offer a view to a gate. -/
def offer (b : Board) (id : GateId) (v : View) : Board :=
  match b.gates[id]? with
  | some (.pending _) => b.setGate id (.pending (some v))
  | some .armed => b.publish v
  | _ => b

/-- Push a view on a sink. -/
def push (b : Board) (s : Sink) (v : View) : Board :=
  match s with
  | .detached => b
  | .gate id => b.offer id v

/-- Open a pending gate: what it holds is published, and what is offered from now on. -/
def arm (b : Board) (id : GateId) : Board :=
  match b.gates[id]? with
  | some (.pending held) =>
    let b := b.setGate id .armed
    match held with
    | some v => b.publish v
    | none => b
  | _ => b

/-- Close a gate for good. -/
def revoke (b : Board) (id : GateId) : Board := b.setGate id .revoked

end Board

/-- A reader of a board, by the number of publications that there were when it last looked. -/
structure Reader where
  seen : Nat
  deriving DecidableEq, Repr

namespace Reader

/-- A reader that has seen what the board shows. -/
def subscribe (b : Board) : Reader := ⟨b.count⟩

/-- Whether something has been published that the reader has not seen. -/
def hasNews (r : Reader) (b : Board) : Bool := r.seen ≠ b.count

end Reader

end StoryPlayer
