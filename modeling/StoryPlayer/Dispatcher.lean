import StoryPlayer.Device.Event

/-!
# Dispatching input

A dispatcher routes the events of an input surface to one sink. Binding it attaches the surface's
listeners, unbinding it detaches them; while it is bound, binding it again does nothing.
-/

namespace StoryPlayer

open Device (Event Trigger)

/-- A failure of the surroundings, in their own words. -/
structure SurfaceError where
  message : String
  deriving DecidableEq, Repr

/-- A source of events whose listeners can be attached and detached. Attaching tells which kind of
key event the source is able to report. -/
class Surface (σ : Type) where
  attach : σ → Except SurfaceError Trigger × σ
  detach : σ → Except SurfaceError Unit × σ

/-- Where commands go, and the kind of key event that gives one. -/
structure Route (κ : Type) where
  sink : κ
  trigger : Trigger

structure Dispatcher (σ κ : Type) where
  surface : σ
  route : Option (Route κ)

namespace Dispatcher

variable {σ κ : Type} [Surface σ]

/-- A dispatcher that is not bound. -/
def unbound (surface : σ) : Dispatcher σ κ := ⟨surface, none⟩

def isBound (d : Dispatcher σ κ) : Bool := d.route.isSome

/-- Route events to `sink`, unless the dispatcher is bound already. If the listeners cannot be
attached, it stays unbound. -/
def bind (d : Dispatcher σ κ) (sink : κ) : Except SurfaceError Unit × Dispatcher σ κ :=
  match d.route with
  | some _ => (.ok (), d)
  | none =>
    match Surface.attach d.surface with
    | (.ok trigger, surface) => (.ok (), ⟨surface, some ⟨sink, trigger⟩⟩)
    | (.error e, surface) => (.error e, ⟨surface, none⟩)

/-- Stop routing events. Listeners that cannot be detached are given up all the same. -/
def unbind (d : Dispatcher σ κ) : Dispatcher σ κ :=
  match d.route with
  | some _ => ⟨(Surface.detach d.surface).2, none⟩
  | none => d

/-- The surface of a dispatcher that is given up. -/
def release (d : Dispatcher σ κ) : σ := d.unbind.surface

/-- The command that an event carries while the dispatcher is bound. -/
def command? (d : Dispatcher σ κ) (e : Event) : Option Command :=
  d.route.bind fun r => e.command? r.trigger

/-- The sink that an event goes to, and the command it gets. -/
def deliver? (d : Dispatcher σ κ) (e : Event) : Option (κ × Command) :=
  d.route.bind fun r => (e.command? r.trigger).map (r.sink, ·)

end Dispatcher

end StoryPlayer
