import StoryPlayer.Proofs.Controller.Propagation
import StoryPlayer.Proofs.Story.Turns

/-!
# What commands show

Of the commands that a controller of scripts is given, only the number of those that move a story on
counts: it says which of the story's views is shown. A controller that is pushed to publishes each
view when the story comes to it; one that reads publishes after every command.

* `Controller.publishedUpon`: what a command publishes.
* `Controller.Plays.handle_later`: one command.
-/

namespace StoryPlayer

/-- The number of the turn that a command takes a story to, if it has come to turn `n` and its turns
do not end. -/
def turnAfter (n : Nat) (c : Command) : Nat := if isAdvancing c.name then n + 1 else n

/-! ## Stories -/

namespace Story

variable {s : Story}

theorem after_eq (s : Story) (c : Command) :
    s.after c = if isAdvancing c.name then s.advance.2 else s := by
  rw [after]
  split
  · cases h : s.advance? with
    | none => rw [advance_of_eq_none h]; rfl
    | some next => rw [advance_of_eq_some h]; rfl
  · rfl

theorem after_later (s : Story) (n : Nat) (c : Command) :
    (s.later n).after c = s.later (turnAfter n c) := by
  rw [after_eq, turnAfter]
  split
  · rfl
  · rfl

end Story

/-! ## Controllers -/

/-- The views that a command publishes, given the views of the story at its turns, after commands
that have taken it to turn `n`. -/
def Propagation.publishedUpon (p : Propagation) (views : List View) (n : Nat) (c : Command) :
    List View :=
  match p with
  | .push => if isAdvancing c.name then views[n + 1]?.toList else []
  | .pull => views[min (turnAfter n c) (views.length - 1)]?.toList

theorem Story.publishedUpon_views (p : Propagation) (s : Story) (n : Nat) (c : Command) :
    p.publishedUpon s.views n c =
      if p = .push ∧ (s.later n).isMovedBy c = false then [] else [((s.later n).after c).view] := by
  rw [after_later]
  cases p with
  | pull =>
    rw [Propagation.publishedUpon, length_views, Nat.add_sub_cancel, getElem?_views]
    rfl
  | push =>
    rw [Propagation.publishedUpon, turnAfter, isMovedBy, getElem?_views_succ]
    cases isAdvancing c.name with
    | false => rfl
    | true => cases (s.later n).isFinished <;> rfl

namespace Controller

variable {c : Controller ScriptSession} {p : Propagation} {resource : String} {s : Story} {n : Nat}

/-- **A command** takes the story to the next turn, if it moves stories on. -/
theorem Plays.handle_later (h : c.Plays p resource (s.later n)) (command : Command) :
    ∃ c', c.handle command = (c', .evaluated) ∧
      c'.Plays p resource (s.later (turnAfter n command)) ∧
      c.board.Publishes (p.publishedUpon s.views n command) c'.board := by
  rw [Story.publishedUpon_views, ← Story.after_later]
  exact h.publishes_handle command

/-- The views that the session pushes upon a command. -/
def pushes {σ : Type} [Session σ] (c : Controller σ) (command : Command) : List View :=
  match c.active with
  | none => []
  | some a => (Session.evaluate a.session command).2

/-- A session that pushes pushes what is published, and one that is read pushes nothing. -/
theorem Plays.pushes_later (h : c.Plays p resource (s.later n)) (command : Command) :
    c.pushes command = if p = .push then p.publishedUpon s.views n command else [] := by
  obtain ⟨gate, ha, -⟩ := h.active
  rw [pushes, ha]
  simp only [ScriptSession.evaluate_eq, Story.publishedUpon_views]
  cases p with
  | pull => simp
  | push => cases (s.later n).isMovedBy command <;> simp

end Controller

end StoryPlayer
