import StoryPlayer.Controller
import StoryPlayer.Proofs.Board

/-!
# What a controller publishes

A session that lets itself be read is read as a whole: all its lines in order and its first image.
What is read that way is published once, after what the session has pushed.

* `Accessors.readView_run`: the view that is read and the calls that reading takes.
* `Controller.conclude_ok`: the end of an attempt that succeeds.
* `Controller.load_error`, `Controller.load_ok`: a whole attempt.
* `Controller.handle_of_active`: a command.
-/

namespace StoryPlayer

/-! ## Reading -/

namespace Accessors

/-- The view that accessors give. -/
def view (a : Accessors) : View := ⟨(List.range a.lineCount).map a.line, (a.image 0).toList⟩

theorem mapM_readLine_run (a : Accessors) (indices : List Nat) (log : List SessionCall) :
    (indices.mapM a.readLine).run log =
      (indices.map a.line, (indices.map SessionCall.line).reverse ++ log) := by
  induction indices generalizing log with
  | nil => rfl
  | cons i rest ih =>
    have hfirst : ((i :: rest).mapM a.readLine).run log =
        (a.line i :: ((rest.mapM a.readLine).run (.line i :: log)).1,
          ((rest.mapM a.readLine).run (.line i :: log)).2) := by
      rw [List.mapM_cons]
      rfl
    rw [hfirst, ih, List.map_cons, List.map_cons, List.reverse_cons, List.append_assoc]
    rfl

/-- The lines are counted once and read in order, and then the first image is read. -/
theorem readView_run (a : Accessors) (log : List SessionCall) :
    a.readView.run log =
      (a.view, .image 0 :: ((List.range a.lineCount).map SessionCall.line).reverse ++
        .lineCount :: log) := by
  have hlines := mapM_readLine_run a (List.range a.lineCount) (.lineCount :: log)
  have hread : a.readView.run log =
      (⟨(((List.range a.lineCount).mapM a.readLine).run (.lineCount :: log)).1,
        (a.image 0).toList⟩,
        .image 0 :: (((List.range a.lineCount).mapM a.readLine).run (.lineCount :: log)).2) := rfl
  rw [hread, hlines]
  rfl

end Accessors

/-- What is published when a session is read: one view, or nothing if it cannot be read. -/
def Session.reading {σ : Type} [Session σ] (session : σ) : List View :=
  ((Session.accessors? session).map Accessors.view).toList

namespace Controller

variable {σ : Type} {c : Controller σ} {gate : GateId} {held : Option View}

/-! ## Pushes -/

@[simp] theorem active_foldl_push (c : Controller σ) (gate : GateId) (views : List View) :
    (views.foldl (fun c v => c.push gate v) c).active = c.active := by
  induction views generalizing c with
  | nil => rfl
  | cons v rest ih => exact ih (c.push gate v)

/-- An armed gate lets every view through. -/
theorem publishes_foldl_push (h : c.board.gates[gate]? = some .armed) (views : List View) :
    c.board.Publishes views (views.foldl (fun c v => c.push gate v) c).board ∧
      (views.foldl (fun c v => c.push gate v) c).board.gates = c.board.gates := by
  induction views generalizing c with
  | nil => exact ⟨.refl c.board, rfl⟩
  | cons v rest ih =>
    have hoffer : c.board.offer gate v = c.board.publish v := by rw [Board.offer, h]
    have hpush : (c.push gate v).board = c.board.publish v := hoffer
    obtain ⟨hrest, hgates⟩ := ih (c := c.push gate v) (by rw [hpush]; exact h)
    rw [hpush] at hrest hgates
    exact ⟨(Board.publishes_publish c.board v).trans hrest, hgates⟩

/-- A pending gate holds the last view. -/
theorem foldl_push_of_pending (h : c.board.gates[gate]? = some (.pending held))
    (views : List View) :
    c.board.Publishes [] (views.foldl (fun c v => c.push gate v) c).board ∧
      (views.foldl (fun c v => c.push gate v) c).board.gates[gate]? =
        some (.pending (views.getLast?.or held)) := by
  induction views generalizing c held with
  | nil => exact ⟨.refl c.board, h⟩
  | cons v rest ih =>
    have hgate : (c.push gate v).board.gates[gate]? = some (.pending (some v)) := by
      have hgates := Board.gates_offer c.board gate v
      rw [push, hgates, List.getElem?_modify_eq, h]
      rfl
    obtain ⟨hrest, hlast⟩ := ih hgate
    refine ⟨?_, ?_⟩
    · have hfirst := Board.publishes_offer c.board gate v
      rw [h] at hfirst
      exact hfirst.trans hrest
    · rw [List.foldl_cons, hlast, List.getLast?_cons, Option.or_some, Option.some_or]

/-! ## Attempts are counted by their gates -/

theorem isLoaded_eq (c : Controller σ) : c.isLoaded = c.resource?.isSome := by
  rw [isLoaded, resource?, Option.isSome_map]

@[simp] theorem attempts_push (c : Controller σ) (gate : GateId) (v : View) :
    (c.push gate v).attempts = c.attempts :=
  Board.length_gates_offer c.board gate v

@[simp] theorem resource?_push (c : Controller σ) (gate : GateId) (v : View) :
    (c.push gate v).resource? = c.resource? := rfl

theorem attempts_foldl_push (c : Controller σ) (gate : GateId) (views : List View) :
    (views.foldl (fun c v => c.push gate v) c).attempts = c.attempts := by
  induction views generalizing c with
  | nil => rfl
  | cons v rest ih => exact (ih (c.push gate v)).trans (attempts_push c gate v)

theorem attempts_openAttempt (c : Controller σ) :
    c.openAttempt.2.attempts = c.attempts + 1 := by
  simp [attempts, openAttempt, Board.openGate]

/-! ## Rebuilding -/

variable [Session σ]

theorem publishes_rebuild (c : Controller σ) (session : σ) :
    c.board.Publishes (Session.reading session) (c.rebuild session).board := by
  rw [rebuild, Session.reading]
  cases Session.accessors? session with
  | none => exact .refl c.board
  | some a =>
    show c.board.Publishes [a.view] (c.board.publish (a.readView.run c.received).1)
    rw [Accessors.readView_run]
    exact Board.publishes_publish c.board a.view

@[simp] theorem gates_rebuild (c : Controller σ) (session : σ) :
    (c.rebuild session).board.gates = c.board.gates := by
  rw [rebuild]
  cases Session.accessors? session with
  | none => rfl
  | some a => rfl

@[simp] theorem active_rebuild (c : Controller σ) (session : σ) :
    (c.rebuild session).active = c.active := by
  rw [rebuild]
  cases Session.accessors? session with
  | none => rfl
  | some a => rfl

/-! ## Attempts -/

/-- An attempt that succeeds publishes the view that its gate holds and then what can be read. -/
theorem conclude_ok (h : c.board.gates[gate]? = some (.pending held)) (resource : String)
    (session : σ) :
    ∃ c', c.conclude gate resource (.ok session) = (c', .ok .started) ∧
      c'.active = some ⟨resource, session, gate⟩ ∧
      c'.board.gates = c.board.gates.set gate .armed ∧
      c.board.Publishes (held.toList ++ Session.reading session) c'.board := by
  refine ⟨_, rfl, rfl, ?_, ?_⟩
  · simp [Board.gates_arm h]
  · exact (Board.publishes_arm h).trans
      (publishes_rebuild { c with board := c.board.arm gate } session)

theorem follow_eq (c : Controller σ) (gate : GateId) (resource : String) (course : Loading σ) :
    c.follow gate resource course =
      (course.outcome.1.foldl (fun c v => c.push gate v) c).conclude gate resource
        course.outcome.2 := by
  induction course generalizing c with
  | ready session => rfl
  | failed e => rfl
  | push v next ih => exact ih (c.push gate v)
  | suspend next ih => exact ih c

theorem load_eq (h : c.active = none) (engine : Engine σ) (resource : String) :
    c.load engine resource =
      c.openAttempt.2.follow c.openAttempt.1 resource (engine.start c.attempts resource) := by
  have hc : c.isLoaded = false := by rw [isLoaded, h]; rfl
  rw [load, hc]
  rfl

/-- **A failed attempt** publishes nothing, and the controller remains without a session. -/
theorem load_error (h : c.active = none) {engine : Engine σ} {resource : String}
    {views : List View} {e : LoadError}
    (ho : (engine.start c.attempts resource).outcome = (views, .error e)) :
    ∃ c', c.load engine resource = (c', .error e) ∧ c'.active = none ∧
      c.board.Publishes [] c'.board := by
  have hgate : c.openAttempt.2.board.gates[c.openAttempt.1]? = some (.pending none) :=
    Board.gate_openGate c.board
  obtain ⟨hpub, -⟩ := foldl_push_of_pending hgate views
  refine ⟨_, by rw [load_eq h, follow_eq, ho]; rfl, ?_, ?_⟩
  · simpa [openAttempt] using h
  · exact ((Board.publishes_openGate c.board).trans hpub).trans (Board.publishes_revoke _ _)

/-- **An attempt that succeeds** publishes the last view that it has pushed, if any, and then what
can be read of its session. -/
theorem load_ok (h : c.active = none) {engine : Engine σ} {resource : String}
    {views : List View} {session : σ}
    (ho : (engine.start c.attempts resource).outcome = (views, .ok session)) :
    ∃ c' gate, c.load engine resource = (c', .ok .started) ∧
      c'.active = some ⟨resource, session, gate⟩ ∧ c'.board.gates[gate]? = some .armed ∧
      c.board.Publishes (views.getLast?.toList ++ Session.reading session) c'.board := by
  have hgate : c.openAttempt.2.board.gates[c.openAttempt.1]? = some (.pending none) :=
    Board.gate_openGate c.board
  obtain ⟨hpub, hlast⟩ := foldl_push_of_pending hgate views
  obtain ⟨c', hc', hactive, hgates, hconclude⟩ := conclude_ok hlast resource session
  obtain ⟨hbound, -⟩ := List.getElem?_eq_some_iff.mp hlast
  refine ⟨c', c.openAttempt.1, by rw [load_eq h, follow_eq, ho, hc'], hactive, ?_, ?_⟩
  · rw [hgates, List.getElem?_set_self hbound]
  · rw [Option.or_none] at hconclude
    exact ((Board.publishes_openGate c.board).trans hpub).trans hconclude

/-! ## Commands -/

/-- **A command** publishes what the session pushes upon it, in order, and then what can be read. -/
theorem handle_of_active {a : Active σ} (h : c.active = some a)
    (hg : c.board.gates[a.gate]? = some .armed) (command : Command) :
    ∃ c', c.handle command = (c', .evaluated) ∧
      c'.active = some { a with session := (Session.evaluate a.session command).1 } ∧
      c'.board.gates = c.board.gates ∧
      c.board.Publishes ((Session.evaluate a.session command).2 ++
        Session.reading (Session.evaluate a.session command).1) c'.board := by
  let received : Controller σ :=
    { c with
      received := .evaluate command :: c.received
      active := some { a with session := (Session.evaluate a.session command).1 } }
  obtain ⟨hpushes, hgates⟩ :=
    publishes_foldl_push (c := received) hg (Session.evaluate a.session command).2
  refine ⟨_, by rw [handle, h], ?_, ?_, ?_⟩
  · rw [active_rebuild, active_foldl_push]
  · rw [gates_rebuild]
    exact hgates
  · exact hpushes.trans (publishes_rebuild _ _)

theorem handle_of_none (h : c.active = none) (command : Command) :
    c.handle command = (c, .ignored) := by
  rw [handle, h]

/-! ## What stays the same -/

theorem attempts_rebuild (c : Controller σ) (session : σ) :
    (c.rebuild session).attempts = c.attempts := by
  rw [attempts, gates_rebuild]
  rfl

/-- A command leaves the session in its place. -/
theorem active_handle (c : Controller σ) (command : Command) :
    (c.handle command).1.active =
      c.active.map fun a => { a with session := (Session.evaluate a.session command).1 } := by
  cases ha : c.active with
  | none => simp [handle, ha]
  | some a => simp [handle, ha]

/-- A command leaves the number of attempts and the name of the story alone. -/
theorem handle_frame (c : Controller σ) (command : Command) :
    (c.handle command).1.attempts = c.attempts ∧
      (c.handle command).1.resource? = c.resource? ∧
      (c.handle command).2 = if c.isLoaded then .evaluated else .ignored := by
  cases ha : c.active with
  | none => simp [handle, ha, isLoaded]
  | some a =>
    refine ⟨?_, ?_, ?_⟩
    · rw [handle, ha]
      exact (attempts_rebuild _ _).trans (attempts_foldl_push _ _ _)
    · simp [handle, ha, resource?]
    · simp [handle, ha, isLoaded]

/-- How an attempt ends decides the answer and whether there is a story. -/
theorem conclude_frame (c : Controller σ) (gate : GateId) (resource : String)
    (result : Except LoadError σ) :
    (c.conclude gate resource result).1.attempts = c.attempts ∧
      (c.conclude gate resource result).1.resource? =
        (match result with
        | .ok _ => some resource
        | .error _ => c.resource?) ∧
      (c.conclude gate resource result).2 = result.map fun _ => .started := by
  cases result with
  | error e => exact ⟨List.length_set, rfl, rfl⟩
  | ok session =>
    refine ⟨?_, rfl, rfl⟩
    refine (attempts_rebuild { c with board := c.board.arm gate } session).trans ?_
    rw [attempts, attempts, Board.length_gates_arm]

end Controller

end StoryPlayer
