import StoryPlayer.Proofs.App.Errand
import StoryPlayer.Proofs.App.Mounts
import StoryPlayer.Proofs.App.Operations

/-!
# The loop of the player, beat by beat

Between two turns of its loop the player waits, and whatever is ready may come first: an event, a view
that it has not drawn, the result of loading.  Meanwhile the mounted room goes on by itself and so do
the rooms of earlier mounts; a loading task may die, and a session may push views on its own account.
Each of these is a `Beat`, and a loop head is what any beats lead to, on any terminal, as long as
nothing ends the player (`App.AtHead`).

All the time the player plays one story, under the same bindings (`App.AtHead.faithful`).  Nothing that it
does depends on the rooms of earlier mounts (`App.beat_withEarlier`), and their
tasks do nothing but to them (`App.beat_of_isStray`).  So it makes no difference to a loop head whether
they ever do anything (`App.AtHead.alone`).
-/

namespace StoryPlayer

open Device (Event)

/-- Something that happens to a player that waits. -/
inductive Beat (σ : Type) where
  | happening (h : Happening σ)
  /-- A view is pushed on a gate of the mounted room, whatever its loading does. -/
  | push (gate : GateId) (v : View)
  /-- A view is pushed on a gate of an earlier room. -/
  | strayPush (mount : Nat) (gate : GateId) (v : View)
  /-- The task that loads the mounted story dies. -/
  | breakOff
  /-- The task of an earlier mount dies. -/
  | strayBreakOff (mount : Nat)
  /-- The player looks for a loading task that has died. -/
  | joinBroken (message : String)

/-- Whether a task of an earlier mount does this. -/
def Beat.isStray {σ : Type} : Beat σ → Bool
  | .happening (.strayWork _ _) | .strayPush _ _ _ | .strayBreakOff _ => true
  | _ => false

namespace App

variable {σ : Type} {a a' : App σ} {size : Screen.Size}

/-- The size of the terminal when the player last drew something, if it was `size` before and `a'` is
what has become of the player. -/
def lastSize (a a' : App σ) (size : Screen.Size) : Screen.Size :=
  if a'.terminal.pictures = a.terminal.pictures then size else a'.terminal.size

theorem lastSize_of_eq (h : a'.terminal.pictures = a.terminal.pictures) (size : Screen.Size) :
    a.lastSize a' size = size := if_pos h

theorem lastSize_of_append {p : Picture} (h : a'.terminal.pictures = a.terminal.pictures ++ [p])
    (size : Screen.Size) : a.lastSize a' size = a'.terminal.size := by
  refine if_neg ?_
  rw [h]
  simp

/-! ## Earlier mounts and what the player does -/

/-- What the player does depends on no earlier room: drawing, -/
theorem redrawn_withEarlier (a : App σ) (earlier : List (Room σ)) :
    ({ a with earlier } : App σ).redrawn = (a.redrawn.1, { a.redrawn.2 with earlier }) := by
  have hredraw : ({ a with earlier } : App σ).redraw =
      (a.redraw.1, { a.redraw.2 with earlier }) := by
    rw [redraw, redraw]
    cases hsize : a.terminal.perform .readSize with
    | mk result t =>
      have hsize' : ({ a with earlier } : App σ).terminal.perform .readSize = (result, t) := hsize
      rw [hsize']
      cases result with
      | error e => rfl
      | ok u => rfl
  rw [redrawn, redrawn, hredraw]
  cases a.redraw with
  | mk result a' =>
    cases result with
    | error e => rfl
    | ok u => rfl

/-- mounting, -/
theorem mount_withEarlier (a : App σ) (earlier : List (Room σ)) (t : Terminal) :
    ({ a with earlier } : App σ).mount t = ((a.mount t).1, { (a.mount t).2 with earlier }) := by
  rw [mount, mount]
  cases (Dispatcher.unbound ⟨t, false⟩ : Dispatcher TerminalInput Unit).bind () with
  | mk result dispatcher =>
    cases result with
    | error e => rfl
    | ok u =>
      exact redrawn_withEarlier
        { a with
          dispatcher
          room := roomFor a.resource
          reader := .subscribe .fresh
          awaiting := true
          state := .loading } earlier

theorem remount_withEarlier (a : App σ) (earlier : List (Room σ)) :
    ∃ earlier', ({ a with earlier } : App σ).remount =
      (a.remount.1, { a.remount.2 with earlier := earlier' }) := by
  have hmount := a.mount_withEarlier (a.earlier ++ [abandon a.room]) a.dispatcher.release.terminal
  refine ⟨earlier ++ [abandon a.room], ?_⟩
  rw [remount, remount, hmount]
  exact a.mount_withEarlier (earlier ++ [abandon a.room]) a.dispatcher.release.terminal

variable [Session σ] {resource : String} {b : KeyBindings} {beats : List (Beat σ)}

/-- taking an event, -/
theorem takeEvent_withEarlier (a : App σ) (earlier : List (Room σ)) (e : Event) :
    ∃ earlier', ({ a with earlier } : App σ).takeEvent e =
      ((a.takeEvent e).1, { (a.takeEvent e).2 with earlier := earlier' }) := by
  have hpurpose : ({ a with earlier } : App σ).bindings.purposeOf e = a.bindings.purposeOf e := rfl
  rw [takeEvent_eq, takeEvent_eq, hpurpose]
  cases a.bindings.purposeOf e with
  | quit => exact ⟨earlier, rfl⟩
  | reload => exact a.remount_withEarlier earlier
  | nothing => exact ⟨earlier, rfl⟩
  | resize => exact ⟨earlier, a.redrawn_withEarlier earlier⟩
  | story =>
    refine ⟨earlier, ?_⟩
    have hdispatch : ({ a with earlier } : App σ).dispatch e = { a.dispatch e with earlier } := by
      rw [App.dispatch, App.dispatch]
      cases a.dispatcher.deliver? e with
      | none => rfl
      | some p => rfl
    rw [hdispatch]

/-! ## One beat -/

/-- One beat. -/
def beat (a : App σ) : Beat σ → Except PlayError Flow × App σ
  | .happening h => a.step h
  | .push gate v =>
    (.ok .goOn, { a with room := { a.room with controller := a.room.controller.push gate v } })
  | .strayPush mount gate v =>
    (.ok .goOn, { a with
      earlier := a.earlier.modify mount fun r => { r with controller := r.controller.push gate v } })
  | .breakOff => (.ok .goOn, { a with room := a.room.breakOff })
  | .strayBreakOff mount =>
    (.ok .goOn, { a with earlier := a.earlier.modify mount fun r => abandon r.breakOff })
  | .joinBroken message =>
    if a.awaiting && a.room.isBrokenOff then
      { a with awaiting := false, state := .failed message }.redrawn
    else (.ok .goOn, a)

/-- Whatever happens, it depends on no earlier room. -/
theorem beat_withEarlier (a : App σ) (earlier : List (Room σ)) (x : Beat σ) :
    ∃ earlier', ({ a with earlier } : App σ).beat x =
      ((a.beat x).1, { (a.beat x).2 with earlier := earlier' }) := by
  cases x with
  | happening y =>
    cases y with
    | event e =>
      rw [App.beat, App.beat, step, step]
      cases hread : a.terminal.perform .readEvent with
      | mk result t =>
        have hread' : ({ a with earlier } : App σ).terminal.perform .readEvent = (result, t) := hread
        rw [hread']
        cases result with
        | error err => exact ⟨earlier, rfl⟩
        | ok u => exact (a.withTerminal t).takeEvent_withEarlier earlier e
    | notice =>
      rw [App.beat, App.beat, step, step]
      show ∃ earlier', (if a.reader.hasNews a.room.controller.board then _ else _) = _
      split
      · exact ⟨earlier, redrawn_withEarlier
          { a with reader := .subscribe a.room.controller.board } earlier⟩
      · exact ⟨earlier, rfl⟩
    | join =>
      have hresult : ({ a with earlier } : App σ).result? = a.result? := rfl
      rw [App.beat, App.beat, step, step, hresult]
      cases a.result? with
      | none => exact ⟨earlier, rfl⟩
      | some result =>
        exact ⟨earlier, redrawn_withEarlier
          { a with awaiting := false, state := stateOf result } earlier⟩
    | _ => exact ⟨_, rfl⟩
  | joinBroken message =>
    rw [App.beat, App.beat]
    show ∃ earlier', (if a.awaiting && a.room.isBrokenOff then _ else _) = _
    split
    · exact ⟨earlier, redrawn_withEarlier
        { a with awaiting := false, state := .failed message } earlier⟩
    · exact ⟨earlier, rfl⟩
  | _ => exact ⟨_, rfl⟩

/-- A task of an earlier mount changes nothing but the room of that mount. -/
theorem beat_of_isStray (a : App σ) {x : Beat σ} (hx : x.isStray = true) :
    ∃ earlier, a.beat x = (.ok .goOn, { a with earlier }) := by
  cases x with
  | happening y =>
    cases y with
    | strayWork mount engine => exact ⟨_, rfl⟩
    | _ => cases hx
  | strayPush mount gate v => exact ⟨_, rfl⟩
  | strayBreakOff mount => exact ⟨_, rfl⟩
  | _ => cases hx

/-! ## Loop heads -/

/-- The players at the head of the loop, after any beats, with the size of the terminal when they last
drew something. -/
inductive AtHead (resource : String) (b : KeyBindings) :
    List (Beat σ) → App σ → Screen.Size → Prop
  | mounted {t : Terminal} {a : App σ} (h : (blank resource b t).mount t = (.ok .goOn, a)) :
      AtHead resource b [] a a.terminal.size
  | passed {beats : List (Beat σ)} {a a' : App σ} {size : Screen.Size} {x : Beat σ}
      (h : AtHead resource b beats a size) (hx : a.beat x = (.ok .goOn, a')) :
      AtHead resource b (beats ++ [x]) a' (a.lastSize a' size)

theorem AtHead.next (h : AtHead resource b beats a size) {x : Beat σ} (hx : (a.beat x).1 = .ok .goOn) :
    AtHead resource b (beats ++ [x]) (a.beat x).2 (a.lastSize (a.beat x).2 size) :=
  h.passed (Prod.ext hx rfl)

/-- **Earlier mounts have no part in it:** if their tasks had never done anything, the player would be
the same, its earlier rooms apart. -/
theorem AtHead.alone (h : AtHead resource b beats a size) :
    ∃ earlier, AtHead resource b (beats.filter fun x => !x.isStray) { a with earlier } size := by
  induction h with
  | @mounted t a h => exact ⟨a.earlier, .mounted h⟩
  | @passed beats a next size x _ hx ih =>
    obtain ⟨earlier, halone⟩ := ih
    rw [List.filter_append]
    cases hstray : x.isStray with
    | true =>
      obtain ⟨changed, hbeat⟩ := a.beat_of_isStray hstray
      cases hbeat.symm.trans hx
      have hsize : a.lastSize { a with earlier := changed } size = size := lastSize_of_eq rfl size
      have hnone : [x].filter (fun x => !x.isStray) = [] := by simp [hstray]
      rw [hsize, hnone, List.append_nil]
      exact ⟨earlier, halone⟩
    | false =>
      obtain ⟨earlier', hbeat⟩ := a.beat_withEarlier earlier x
      have hone : [x].filter (fun x => !x.isStray) = [x] := by simp [hstray]
      rw [hx] at hbeat
      rw [hone]
      exact ⟨earlier', halone.passed hbeat⟩

/-! ## One story -/

/-- The player is there for this story, under these bindings. -/
structure Faithful (resource : String) (b : KeyBindings) (a : App σ) : Prop where
  story : a.resource = resource
  bindings : a.bindings = b
  asks : a.room.Asks resource

omit [Session σ] in
theorem Faithful.redrawn (h : a.Faithful resource b) {flow : Flow}
    (ha : a.redrawn = (.ok flow, a')) : a'.Faithful resource b := by
  obtain ⟨-, rfl⟩ := redrawn_ok ha
  exact ⟨h.story, h.bindings, h.asks⟩

omit [Session σ] in
theorem faithful_mount (hstory : a.resource = resource) (hbindings : a.bindings = b) {t : Terminal}
    {flow : Flow} (ha : a.mount t = (.ok flow, a')) : a'.Faithful resource b := by
  rcases mount_cases a t with ⟨e, i, -, hmount⟩ | ⟨trigger, i, -, hmount⟩
  · cases ha.symm.trans hmount
  · have hbound : (a.boundTo i trigger).Faithful resource b :=
      ⟨hstory, hbindings, hstory ▸ Room.asks_roomFor a.resource⟩
    exact hbound.redrawn (hmount.symm.trans ha)

theorem Faithful.takeEvent (h : a.Faithful resource b) {e : Event} {flow : Flow}
    (ha : a.takeEvent e = (.ok flow, a')) : a'.Faithful resource b := by
  rw [takeEvent_eq] at ha
  cases hp : a.bindings.purposeOf e with
  | reload =>
    rw [hp] at ha
    exact faithful_mount (a := { a with earlier := a.earlier ++ [abandon a.room] }) h.story
      h.bindings ha
  | resize =>
    rw [hp] at ha
    exact h.redrawn ha
  | story =>
    rw [hp] at ha
    cases ha
    rw [App.dispatch]
    split
    · rename_i c _
      exact ⟨h.story, h.bindings,
        h.asks.withController (Controller.handle_frame a.room.controller c).2.1⟩
    · exact h
  | _ =>
    rw [hp] at ha
    cases ha
    exact h

theorem Faithful.beat (h : a.Faithful resource b) {x : Beat σ} {flow : Flow}
    (ha : a.beat x = (.ok flow, a')) : a'.Faithful resource b := by
  cases x with
  | happening y =>
    cases y with
    | event e =>
      rw [App.beat, App.step] at ha
      rcases a.terminal.perform_cases .readEvent with hread | ⟨err, hread⟩
      · simp only [hread] at ha
        have hheard : (a.withTerminal (a.terminal.tried [(.readEvent, true)])).Faithful resource b :=
          ⟨h.story, h.bindings, h.asks⟩
        exact hheard.takeEvent ha
      · simp only [hread] at ha
        cases ha
    | notice =>
      rw [App.beat, App.step] at ha
      split at ha
      · have hseen : ({ a with reader := .subscribe a.room.controller.board } : App σ).Faithful
            resource b := ⟨h.story, h.bindings, h.asks⟩
        exact hseen.redrawn ha
      · cases ha
        exact h
    | join =>
      rw [App.beat, App.step] at ha
      cases hresult : a.result? with
      | none =>
        simp only [hresult] at ha
        cases ha
        exact h
      | some result =>
        simp only [hresult] at ha
        have htaken : ({ a with awaiting := false, state := stateOf result } : App σ).Faithful
            resource b := ⟨h.story, h.bindings, h.asks⟩
        exact htaken.redrawn ha
    | work engine =>
      cases ha
      exact ⟨h.story, h.bindings, h.asks.steps (Room.steps_step engine a.room)⟩
    | _ =>
      cases ha
      exact ⟨h.story, h.bindings, h.asks⟩
  | push gate v =>
    cases ha
    exact ⟨h.story, h.bindings, h.asks.withController (Controller.resource?_push _ gate v)⟩
  | breakOff =>
    cases ha
    exact ⟨h.story, h.bindings, h.asks.alone⟩
  | joinBroken message =>
    rw [App.beat] at ha
    split at ha
    · have htaken : ({ a with awaiting := false, state := .failed message } : App σ).Faithful
          resource b := ⟨h.story, h.bindings, h.asks⟩
      exact htaken.redrawn ha
    · cases ha
      exact h
  | _ =>
    cases ha
    exact ⟨h.story, h.bindings, h.asks⟩

/-- **At every loop head** the player plays the story that it was made for. -/
theorem AtHead.faithful (h : AtHead resource b beats a size) : a.Faithful resource b := by
  induction h with
  | mounted h => exact faithful_mount rfl rfl h
  | passed _ hx ih => exact ih.beat hx

end App

end StoryPlayer
