import StoryPlayer.Dispatcher

/-!
# A surface for rehearsals

A surface that answers as it is told to and counts what is asked of it.
-/

namespace StoryPlayer

structure RehearsedSurface where
  /-- What attaching answers next. -/
  onAttach : Except SurfaceError Device.Trigger
  /-- What detaching answers next. -/
  onDetach : Except SurfaceError Unit
  attaches : Nat
  detaches : Nat

namespace RehearsedSurface

/-- A surface that reports key events of one kind and never fails. -/
def steady (trigger : Device.Trigger) : RehearsedSurface := ⟨.ok trigger, .ok (), 0, 0⟩

instance : Surface RehearsedSurface where
  attach s := (s.onAttach, { s with attaches := s.attaches + 1 })
  detach s := (s.onDetach, { s with detaches := s.detaches + 1 })

end RehearsedSurface

end StoryPlayer
