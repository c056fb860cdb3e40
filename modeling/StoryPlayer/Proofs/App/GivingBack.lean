import StoryPlayer.Engine.Rehearsal
import StoryPlayer.Proofs.App.Mounts
import StoryPlayer.Proofs.App.Operations

/-!
# What the player leaves switched on

The player switches four modes of its terminal on: raw input, the screen of its own, the reports of the
pointer and those of key releases.  On a terminal whose operations may fail, each mode is followed
through the account of a run: it is held from when it has been switched on until somebody tries to
switch it off.

The screen and the reports of key releases are always given back (`App.givesBack`).  The others are
not: raw input is kept if the screen cannot be entered, and the reports of the pointer are kept if
those of key releases cannot be switched on or off (`App.kept_of_failures`).

* `Mode.isHeld`: whether a mode is held after some operations.
* `App.Playing`: what is held while the player goes on, `App.Released`: and after a mount is given up.
-/

namespace StoryPlayer

/-- A mode of the terminal that the player switches on and off. -/
inductive Mode where
  | raw
  | screen
  | pointer
  | releases
  deriving DecidableEq

namespace Mode

/-- The operation that switches it on. -/
def on : Mode → TerminalAction
  | raw => .enableRawMode
  | screen => .write [.enterAlternateScreen, .hideCursor, .clear]
  | pointer => .write [.enableMouse]
  | releases => .write [.pushKeyboard]

/-- The operation that switches it off. -/
def off : Mode → TerminalAction
  | raw => .disableRawMode
  | screen => .write [.showCursor, .leaveAlternateScreen]
  | pointer => .write [.disableMouse]
  | releases => .write [.popKeyboard]

/-- Whether it is held after one more operation. An attempt to switch it off counts, whether it succeeds
or not. -/
def heldAfter (m : Mode) (held : Bool) (entry : TerminalAction × Bool) : Bool :=
  if entry = (m.on, true) then true else if entry.1 = m.off then false else held

/-- Whether it has been switched on, and nobody has tried to switch it off since. -/
def isHeld (m : Mode) (account : List (TerminalAction × Bool)) : Bool :=
  account.foldl m.heldAfter false

theorem isHeld_append (m : Mode) (first later : List (TerminalAction × Bool)) :
    m.isHeld (first ++ later) = later.foldl m.heldAfter (m.isHeld first) := by
  rw [isHeld, List.foldl_append]
  rfl

/-- Whether an operation concerns no mode at all. -/
def isNeutral (a : TerminalAction) : Prop := ∀ m : Mode, a ≠ m.on ∧ a ≠ m.off

theorem isHeld_append_of_isNeutral (m : Mode) (first : List (TerminalAction × Bool))
    {later : List (TerminalAction × Bool)} (h : ∀ e ∈ later, isNeutral e.1) :
    m.isHeld (first ++ later) = m.isHeld first := by
  rw [isHeld_append]
  induction later with
  | nil => rfl
  | cons e later ih =>
    obtain ⟨hon, hoff⟩ := h e List.mem_cons_self m
    have hentry : e ≠ (m.on, true) := fun he => hon (congrArg Prod.fst he)
    rw [List.foldl_cons, heldAfter, if_neg hentry, if_neg hoff]
    exact ih fun e he => h e (List.mem_cons_of_mem _ he)

theorem isNeutral_readSize : isNeutral .readSize := by
  intro m
  cases m with
  | _ => decide

theorem isNeutral_readEvent : isNeutral .readEvent := by
  intro m
  cases m with
  | _ => decide

theorem isNeutral_draw (p : Picture) : isNeutral (.draw p) := by
  intro m
  cases m with
  | _ => exact ⟨nofun, nofun⟩

end Mode

open Mode (isHeld_append isHeld_append_of_isNeutral isNeutral_readSize isNeutral_readEvent
  isNeutral_draw)

/-- The reports of key releases could not be switched on or off. -/
def ReportsFailed (account : List (TerminalAction × Bool)) : Prop :=
  (Mode.releases.on, false) ∈ account ∨ (Mode.releases.off, false) ∈ account

theorem ReportsFailed.append {first : List (TerminalAction × Bool)} (h : ReportsFailed first)
    (later : List (TerminalAction × Bool)) : ReportsFailed (first ++ later) :=
  h.imp (List.mem_append_left later) (List.mem_append_left later)

namespace App

variable {σ : Type} {a : App σ} {t : Terminal}

/-- What is held when no mount has listeners. -/
structure Released (t : Terminal) : Prop where
  releases : Mode.releases.isHeld t.account = false
  pointer : Mode.pointer.isHeld t.account = true → ReportsFailed t.account

/-- What is held while the player goes on, or has stopped over an error. -/
structure Playing (a : App σ) : Prop where
  bound : ∀ r, a.dispatcher.route = some r →
    Mode.releases.isHeld a.terminal.account = a.dispatcher.surface.enhanced
  unbound : a.dispatcher.route = none → Released a.terminal

/-- Operations that concern no mode do not matter. -/
theorem Released.tried (h : Released t) {entries : List (TerminalAction × Bool)}
    (he : ∀ e ∈ entries, Mode.isNeutral e.1) : Released (t.tried entries) where
  releases := (isHeld_append_of_isNeutral .releases t.account he).trans h.releases
  pointer hp := by
    have hheld := isHeld_append_of_isNeutral .pointer t.account he
    exact (h.pointer (hheld.symm.trans hp)).append entries

theorem Playing.tried (h : a.Playing) {entries : List (TerminalAction × Bool)}
    (he : ∀ e ∈ entries, Mode.isNeutral e.1) :
    (a.withTerminal (a.terminal.tried entries)).Playing where
  bound r hr :=
    (isHeld_append_of_isNeutral .releases a.terminal.account he).trans (h.bound r hr)
  unbound hr := (h.unbound hr).tried he

/-! ## Listeners -/

/-- Detaching tries to switch the reports of key releases off. If that fails, those of the pointer are
kept. -/
theorem released_of_detaches {enhanced : Bool} {i : TerminalInput}
    (h : TerminalInput.Detaches t enhanced i)
    (ht : Mode.releases.isHeld t.account = enhanced) : Released i.terminal := by
  cases h with
  | refused he =>
    refine ⟨?_, fun _ => .inr (List.mem_append_right _ List.mem_cons_self)⟩
    rw [Terminal.tried, isHeld_append]
    rfl
  | reports he ok =>
    constructor
    · rw [Terminal.tried, isHeld_append]
      rfl
    · rw [Terminal.tried, isHeld_append]
      intro hkept
      cases hkept
  | plain he ok =>
    constructor
    · rw [Terminal.tried, isHeld_append, ht, he]
      rfl
    · rw [Terminal.tried, isHeld_append]
      intro hkept
      cases hkept

theorem Playing.released (h : a.Playing) : Released a.dispatcher.release.terminal := by
  cases hr : a.dispatcher.route with
  | none =>
    have hrelease : a.dispatcher.release = a.dispatcher.surface := by
      rw [Dispatcher.release, Dispatcher.unbind, hr]
    rw [hrelease]
    exact h.unbound hr
  | some r => exact released_of_detaches (detaches_release hr) (h.bound r hr)

/-- Listeners that cannot be attached are kept only if the reports of key releases fail. -/
theorem released_of_attaches {e : SurfaceError} {i : TerminalInput}
    (h : TerminalInput.Attaches t (.error e) i) (ht : Released t) : Released i.terminal := by
  cases h with
  | refused _ enhanced =>
    refine ⟨?_, fun hp => (ht.pointer ?_).append _⟩
    · rw [Terminal.tried, isHeld_append, ht.releases]
      rfl
    · rw [Terminal.tried, isHeld_append] at hp
      exact hp
  | refusedReports =>
    refine ⟨?_, fun _ => .inl (List.mem_append_right _ ?_)⟩
    · rw [Terminal.tried, isHeld_append, ht.releases]
      rfl
    · exact List.mem_cons_of_mem _ (List.mem_cons_of_mem _ List.mem_cons_self)

/-- Listeners that have been attached know whether they hold the reports of key releases. -/
theorem isHeld_of_attaches {trigger : Device.Trigger} {i : TerminalInput}
    (h : TerminalInput.Attaches t (.ok trigger) i) (ht : Released t) :
    Mode.releases.isHeld i.terminal.account = i.enhanced := by
  cases h with
  | plain asked =>
    rw [Terminal.tried, isHeld_append, ht.releases]
    rfl
  | reports =>
    rw [Terminal.tried, isHeld_append]
    rfl

/-! ## The player -/

/-- Whatever comes of drawing, it concerns no mode. -/
theorem Playing.redrawn (h : a.Playing) : a.redrawn.2.Playing := by
  have hneutral (ok : Bool) (e : TerminalAction × Bool)
      (he : e ∈ [(TerminalAction.readSize, true), (.draw (a.picture a.terminal.size), ok)]) :
      Mode.isNeutral e.1 := by
    simp only [List.mem_cons, List.not_mem_nil, or_false] at he
    rcases he with rfl | rfl
    · exact isNeutral_readSize
    · exact isNeutral_draw _
  rcases redrawn_cases a with ⟨e, hsize⟩ | ⟨e, hdraw⟩ | hok
  · rw [hsize]
    refine h.tried ?_
    intro e he
    rw [List.mem_singleton.mp he]
    exact isNeutral_readSize
  · rw [hdraw]
    exact h.tried (hneutral false)
  · rw [hok]
    exact h.tried (hneutral true)

theorem playing_mount (a : App σ) (ht : Released t) : (a.mount t).2.Playing := by
  rcases mount_cases a t with ⟨e, i, hattaches, hmount⟩ | ⟨trigger, i, hattaches, hmount⟩
  · rw [hmount]
    exact ⟨nofun, fun _ => released_of_attaches hattaches ht⟩
  · rw [hmount]
    refine Playing.redrawn ⟨fun _ _ => isHeld_of_attaches hattaches ht, nofun⟩

/-- Nothing else of the player matters. -/
theorem Playing.congr {a' : App σ} (h : a.Playing) (hd : a'.dispatcher = a.dispatcher) :
    a'.Playing := by
  obtain ⟨bound, unbound⟩ := h
  rw [terminal] at bound unbound
  constructor
  · rw [terminal, hd]
    exact bound
  · rw [terminal, hd]
    exact unbound

/-! ## The terminal itself -/

/-- Taking the terminal over stops with the first operation that fails. -/
theorem acquire_cases (t : Terminal) :
    (∃ e, acquire t = (.error e, t.tried [(Mode.raw.on, false)])) ∨
      (∃ e, acquire t = (.error e, t.tried [(Mode.raw.on, true), (Mode.screen.on, false)])) ∨
      acquire t = (.ok (), t.tried [(Mode.raw.on, true), (Mode.screen.on, true)]) := by
  rw [acquire]
  rcases t.perform_cases .enableRawMode with hraw | ⟨e, hraw⟩
  · rcases (t.tried [(.enableRawMode, true)]).perform_cases Mode.screen.on with
      hscreen | ⟨e, hscreen⟩
    · rw [Mode.on] at hscreen
      simp only [hraw, hscreen, Terminal.tried_tried]
      exact .inr (.inr rfl)
    · rw [Mode.on] at hscreen
      simp only [hraw, hscreen, Terminal.tried_tried]
      exact .inr (.inl ⟨_, rfl⟩)
  · simp only [hraw]
    exact .inl ⟨_, rfl⟩

/-- Giving it back tries everything. -/
theorem giveBack_cases (t : Terminal) :
    ∃ ok ok', giveBack t = t.tried [(Mode.screen.off, ok), (Mode.raw.off, ok')] := by
  obtain ⟨ok, hscreen⟩ := t.exists_perform_snd Mode.screen.off
  obtain ⟨ok', hraw⟩ := (t.tried [(Mode.screen.off, ok)]).exists_perform_snd Mode.raw.off
  rw [Terminal.tried_tried] at hraw
  refine ⟨ok, ok', Eq.trans ?_ hraw⟩
  rw [← hscreen]
  rfl

/-- What is held of a terminal that the player has left. -/
structure GivenBack (t : Terminal) : Prop where
  screen : Mode.screen.isHeld t.account = false
  releases : Mode.releases.isHeld t.account = false
  /-- The reports of the pointer are kept only if those of key releases could not be switched on or
  off. -/
  pointer : Mode.pointer.isHeld t.account = true → ReportsFailed t.account
  /-- Raw input is kept if the screen could not be entered, and then nothing else has been done. -/
  raw : Mode.raw.isHeld t.account = true ↔
    t.account = [(Mode.raw.on, true), (Mode.screen.on, false)]

theorem givenBack_giveBack (ht : Released t) : GivenBack (giveBack t) := by
  obtain ⟨ok, ok', hback⟩ := giveBack_cases t
  rw [hback]
  refine ⟨?_, ?_, fun hp => (ht.pointer ?_).append _, ?_, ?_⟩
  · rw [Terminal.tried, isHeld_append]
    rfl
  · rw [Terminal.tried, isHeld_append, ht.releases]
    rfl
  · rw [Terminal.tried, isHeld_append] at hp
    exact hp
  · rw [Terminal.tried, isHeld_append]
    intro hkept
    cases hkept
  · intro haccount
    have hsplit : t.account ++ [(Mode.screen.off, ok), (Mode.raw.off, ok')] =
        [] ++ [(Mode.raw.on, true), (Mode.screen.on, false)] := haccount
    obtain ⟨-, hlast⟩ := List.append_inj' hsplit rfl
    cases hlast

/-! ## From start to end -/

variable [Session σ]

theorem Playing.takeEvent (h : a.Playing) (e : Device.Event) : (a.takeEvent e).2.Playing := by
  rw [takeEvent_eq]
  cases a.bindings.purposeOf e with
  | quit => exact h
  | reload => exact playing_mount { a with earlier := _ } h.released
  | nothing => exact h
  | resize => exact h.redrawn
  | story =>
    refine h.congr ?_
    show (a.dispatch e).dispatcher = a.dispatcher
    rw [dispatch]
    split
    · rfl
    · rfl

/-- **One happening,** whether it ends the player or not. -/
theorem Playing.step (h : a.Playing) (x : Happening σ) : (a.step x).2.Playing := by
  cases x with
  | event e =>
    have hread (ok : Bool) :
        (a.withTerminal (a.terminal.tried [(.readEvent, ok)])).Playing := by
      refine h.tried ?_
      intro e he
      rw [List.mem_singleton.mp he]
      exact isNeutral_readEvent
    rw [App.step]
    rcases a.terminal.perform_cases .readEvent with hok | ⟨err, herror⟩
    · simp only [hok]
      exact (hread true).takeEvent e
    · simp only [herror]
      exact hread false
  | sized size => exact ⟨h.bound, fun hr => ⟨(h.unbound hr).releases, (h.unbound hr).pointer⟩⟩
  | work engine => exact h.congr rfl
  | strayWork mount engine => exact h.congr rfl
  | notice =>
    rw [App.step]
    split
    · exact Playing.redrawn (a := { a with reader := .subscribe a.room.controller.board })
        (h.congr rfl)
    · exact h
  | join =>
    rw [App.step]
    split
    · exact Playing.redrawn (a := { a with awaiting := false, state := stateOf _ }) (h.congr rfl)
    · exact h

theorem Playing.loop (h : a.Playing) (happenings : List (Happening σ)) :
    (a.loop happenings).2.Playing := by
  induction happenings generalizing a with
  | nil => exact h
  | cons x rest ih =>
    have hstep := h.step x
    rw [App.loop]
    cases hx : a.step x with
    | mk result a' =>
      rw [hx] at hstep
      cases result with
      | error e => exact hstep
      | ok flow =>
        cases flow with
        | goOn => exact ih hstep
        | stop => exact hstep

theorem playing_playOn (resource : String) (b : KeyBindings) (ht : Released t)
    (happenings : List (Happening σ)) : (playOn resource b t happenings).2.Playing := by
  have hmount := playing_mount (blank resource b t : App σ) ht
  rw [playOn]
  cases hm : (blank resource b t : App σ).mount t with
  | mk result a =>
    rw [hm] at hmount
    cases result with
    | error e => exact hmount
    | ok flow => exact hmount.loop happenings

/-- **What the player leaves switched on,** whatever fails and whatever happens. -/
theorem givesBack (resource : String) (b : KeyBindings) (size : Screen.Size) (reports : Bool)
    (failure : Nat → Option SurfaceError) (happenings : List (Happening σ)) :
    GivenBack (run resource b ⟨size, reports, failure, []⟩ happenings).2 := by
  rw [run]
  rcases acquire_cases ⟨size, reports, failure, []⟩ with
    ⟨e, hacquire⟩ | ⟨e, hacquire⟩ | hacquire
  · rw [hacquire]
    exact ⟨rfl, rfl, nofun, nofun, nofun⟩
  · rw [hacquire]
    exact ⟨rfl, rfl, nofun, fun _ => rfl, fun _ => rfl⟩
  · rw [hacquire]
    have hstart : Released (Terminal.tried ⟨size, reports, failure, []⟩
        [(Mode.raw.on, true), (Mode.screen.on, true)]) := ⟨rfl, nofun⟩
    exact givenBack_giveBack (playing_playOn resource b hstart happenings).released

/-- A terminal of which just the operation of one number fails. -/
def failingAt (n : Nat) : Terminal :=
  ⟨⟨80, 24⟩, true, fun k => if k = n then some ⟨"broken pipe"⟩ else none, []⟩

/-- Not everything is given back: raw input is kept if the screen cannot be entered, and the reports of
the pointer if those of key releases cannot be switched on, or off. -/
theorem kept_of_failures :
    Mode.raw.isHeld (run (σ := RehearsedSession) "a.ks" .default (failingAt 1) []).2.account ∧
    Mode.pointer.isHeld
      (run (σ := RehearsedSession) "a.ks" .default (failingAt 4) []).2.account ∧
    Mode.pointer.isHeld
      (run (σ := RehearsedSession) "a.ks" .default (failingAt 7) []).2.account := by
  decide

end App

end StoryPlayer
