import StoryPlayer.Engine.Rehearsal
import StoryPlayer.Proofs.App.Bill

/-!
# The player's own keys, and one mount after another

On a terminal that never fails, a player stands where the bill of what has happened leads it: its
rooms have been given what the bill says, and the terminal has been told to attach and detach the
listeners of one mount after another.

* `App.Stands.step`: one happening.
* `App.exists_playedOn`: any happenings, and what comes of later ones.
* `App.mountsApart`: the player's own keys never reach the story, and mounts never overlap.
-/

namespace StoryPlayer

open Device (Event Trigger)
open Screen (Ansi)

/-! ## One happening -/

namespace App

variable {σ : Type} [Session σ] {resource : String} {b : KeyBindings} {releases : Bool}
  {bill : Bill σ} {a : App σ}

/-- The player stands where this bill leads, on a terminal that never fails. -/
structure Stands (resource : String) (b : KeyBindings) (releases : Bool) (bill : Bill σ)
    (a : App σ) : Prop where
  story : a.resource = resource
  bindings : a.bindings = b
  isReliable : a.terminal.IsReliable
  reports : a.terminal.reportsReleases = releases
  enhanced : a.dispatcher.surface.enhanced = releases
  route : a.dispatcher.route = some ⟨(), .ofReports releases⟩
  room : a.room = RoomAct.roomAfter resource bill.current
  earlier : a.earlier = bill.earlier.map (RoomAct.roomAfter resource)
  switches : a.terminal.switches =
    TerminalInput.listeners releases bill.earlier.length ++ TerminalInput.attaching releases

/-- Operations that switch nothing do not matter. -/
theorem Stands.withTerminal (h : Stands resource b releases bill a) {t : Terminal}
    (ht : a.terminal.Writes [] t) : Stands resource b releases bill (a.withTerminal t) where
  story := h.story
  bindings := h.bindings
  isReliable := ht.isReliable h.isReliable
  reports := ht.reportsReleases.trans h.reports
  enhanced := h.enhanced
  route := h.route
  room := h.room
  earlier := h.earlier
  switches := by
    rw [← h.switches, ← List.append_nil a.terminal.switches]
    exact ht.switches

/-- Neither does what the player has noticed of its room. -/
theorem Stands.noticing (h : Stands resource b releases bill a) (reader : Reader) (awaiting : Bool)
    (state : LoadState) : Stands resource b releases bill { a with reader, awaiting, state } :=
  ⟨h.story, h.bindings, h.isReliable, h.reports, h.enhanced, h.route, h.room, h.earlier, h.switches⟩

theorem Stands.redrawn (h : Stands resource b releases bill a) :
    ∃ a', a.redrawn = (.ok .goOn, a') ∧ Stands resource b releases bill a' := by
  obtain ⟨t, hredrawn, hwrites⟩ := redrawn_eq h.isReliable
  exact ⟨_, hredrawn, h.withTerminal hwrites⟩

/-- Events are taken by what they are for. -/
theorem takeEvent_eq (a : App σ) (e : Event) :
    a.takeEvent e =
      match a.bindings.purposeOf e with
      | .quit => (.ok .stop, a)
      | .reload => a.remount
      | .nothing => (.ok .goOn, a)
      | .resize => a.redrawn
      | .story => (.ok .goOn, a.dispatch e) := by
  cases e with
  | key k =>
    have hquit : isQuit a.bindings k = true ↔
        k.code = .char 'c' ∧ k.modifiers.control ∨ Device.answersTo k a.bindings.quit := by
      rw [isQuit, Bool.or_eq_true, Bool.and_eq_true, decide_eq_true_iff]
    rw [takeEvent, KeyBindings.purposeOf]
    simp only [hquit]
    split
    · rfl
    · split
      · split
        · rfl
        · rfl
      · rfl
  | _ => rfl

/-- An event that carries a command goes to the mounted room, and any other goes nowhere. -/
theorem dispatch_eq {trigger : Trigger} (hr : a.dispatcher.route = some ⟨(), trigger⟩)
    (e : Event) : a.dispatch e =
      { a with
        room := ((e.command? trigger).map RoomAct.command).toList.foldl RoomAct.on a.room } := by
  rw [dispatch, Dispatcher.deliver?, hr, Option.bind_some]
  cases e.command? trigger with
  | none => rfl
  | some c => rfl

theorem Stands.dispatch (h : Stands resource b releases bill a) (e : Event) :
    Stands resource b releases
      { bill with
        current := bill.current ++
          ((e.command? (.ofReports releases)).map RoomAct.command).toList } (a.dispatch e) := by
  rw [dispatch_eq h.route]
  refine ⟨h.story, h.bindings, h.isReliable, h.reports, h.enhanced, h.route, ?_, h.earlier,
    h.switches⟩
  rw [RoomAct.roomAfter, List.foldl_append, ← RoomAct.roomAfter, ← h.room]

/-- What mounting the story anew makes of a player, over this terminal. -/
def remounted (a : App σ) (t : Terminal) : App σ :=
  { a with earlier := a.earlier ++ [a.room.left] }.mounted t

/-- The listeners are detached before new ones are attached. -/
theorem Stands.remount_eq (h : Stands resource b releases bill a) :
    ∃ t, a.remount = (.ok .goOn, a.remounted t) ∧
      a.terminal.Writes
        (TerminalInput.detaching releases ++ TerminalInput.attaching releases) t := by
  have hrelease := writes_release h.isReliable h.route
  obtain ⟨t, hmount, hattach⟩ := mount_eq (hrelease.isReliable h.isReliable)
    { a with earlier := a.earlier ++ [a.room.left] }
  have hwrites := hrelease.trans hattach
  rw [hrelease.reportsReleases, h.enhanced, h.reports] at hwrites
  rw [remount, Room.abandon_eq_left]
  exact ⟨t, hmount, hwrites⟩

theorem Stands.remounted (h : Stands resource b releases bill a) {t : Terminal}
    (ht : a.terminal.Writes
      (TerminalInput.detaching releases ++ TerminalInput.attaching releases) t) :
    Stands resource b releases ⟨bill.earlier ++ [bill.current ++ [.abandon]], []⟩
      (a.remounted t) := by
  have hreports : t.reportsReleases = releases := ht.reportsReleases.trans h.reports
  refine ⟨h.story, h.bindings, ht.isReliable h.isReliable, hreports, hreports, ?_, ?_, ?_, ?_⟩
  · show some (Route.mk () t.trigger) = _
    rw [Terminal.trigger, hreports]
  · exact congrArg roomFor h.story
  · rw [List.map_append, ← h.earlier, List.map_singleton, RoomAct.roomAfter_append, ← h.room]
    rfl
  · have hswitches : t.switches = a.terminal.switches ++ _ := ht.switches
    show t.switches = _
    rw [hswitches, h.switches, List.length_append, List.length_singleton,
      TerminalInput.listeners_succ]
    simp only [List.append_assoc]

/-- The player when an event has been read. -/
def heard (a : App σ) : App σ := a.withTerminal (a.terminal.did [.readEvent])

theorem Stands.heard (h : Stands resource b releases bill a) :
    Stands resource b releases bill a.heard := h.withTerminal a.terminal.writes_readEvent

theorem Stands.step_event (h : Stands resource b releases bill a) (e : Event) :
    a.step (.event e) =
      match b.purposeOf e with
      | .quit => (.ok .stop, a.heard)
      | .reload => a.heard.remount
      | .nothing => (.ok .goOn, a.heard)
      | .resize => a.heard.redrawn
      | .story => (.ok .goOn, a.heard.dispatch e) := by
  have hread : a.step (.event e) = a.heard.takeEvent e := by
    rw [App.step, Terminal.perform_eq h.isReliable]
    rfl
  rw [hread, takeEvent_eq, h.heard.bindings]

/-- **One happening** that does not end the player leads it on as the bill says. -/
theorem Stands.step (h : Stands resource b releases bill a) {happening : Happening σ}
    (hq : happening.quits b = false) :
    ∃ a', a.step happening = (.ok .goOn, a') ∧
      Stands resource b releases (bill.after b (.ofReports releases) happening) a' := by
  cases happening with
  | sized size => exact ⟨_, rfl, h.withTerminal (a.terminal.writes_size size)⟩
  | work engine =>
    refine ⟨_, rfl, h.story, h.bindings, h.isReliable, h.reports, h.enhanced, h.route, ?_,
      h.earlier, h.switches⟩
    show a.room.step engine = RoomAct.roomAfter resource (bill.current ++ [.work engine])
    rw [RoomAct.roomAfter_append, ← h.room]
    rfl
  | strayWork mount engine =>
    have hlength : (bill.earlier.modify mount (· ++ [.work engine, .abandon])).length =
        bill.earlier.length := List.length_modify _ _ _
    have hroom (acts : List (RoomAct σ)) :
        RoomAct.roomAfter resource (acts ++ [.work engine, .abandon]) =
          abandon ((RoomAct.roomAfter resource acts).step engine) := by
      rw [RoomAct.roomAfter_append, Room.abandon_eq_left]
      rfl
    refine ⟨_, rfl, h.story, h.bindings, h.isReliable, h.reports, h.enhanced, h.route, h.room, ?_,
      ?_⟩
    · show a.earlier.modify mount _ = (bill.earlier.modify mount _).map _
      rw [h.earlier]
      exact (Bill.map_modify hroom _ mount).symm
    · show a.terminal.switches =
        TerminalInput.listeners releases (bill.earlier.modify _ _).length ++ _
      rw [hlength]
      exact h.switches
  | notice =>
    rw [App.step]
    split
    · exact (h.noticing _ _ _).redrawn
    · exact ⟨_, rfl, h⟩
  | join =>
    rw [App.step]
    split
    · exact (h.noticing _ _ _).redrawn
    · exact ⟨_, rfl, h⟩
  | event e =>
    rw [h.step_event]
    cases hp : b.purposeOf e with
    | quit =>
      rw [Happening.quits, hp] at hq
      cases hq
    | reload =>
      obtain ⟨t, hremount, hwrites⟩ := h.heard.remount_eq
      simp only [Bill.after, hp]
      exact ⟨_, hremount, h.heard.remounted hwrites⟩
    | nothing =>
      simp only [Bill.after, hp]
      exact ⟨_, rfl, h.heard⟩
    | resize =>
      simp only [Bill.after, hp]
      exact h.heard.redrawn
    | story =>
      simp only [Bill.after, hp]
      exact ⟨_, rfl, h.heard.dispatch e⟩

/-! ## Any happenings -/

/-- As long as nothing ends the player, it goes on as the bill says. -/
theorem Stands.loop (h : Stands resource b releases bill a) {happenings : List (Happening σ)}
    (hq : happenings.any (·.quits b) = false) :
    ∃ a', (∀ later, a.loop (happenings ++ later) = a'.loop later) ∧
      Stands resource b releases (happenings.foldl (Bill.after b (.ofReports releases)) bill)
        a' := by
  induction happenings generalizing bill a with
  | nil => exact ⟨a, fun _ => rfl, h⟩
  | cons happening rest ih =>
    rw [List.any_cons, Bool.or_eq_false_iff] at hq
    obtain ⟨a₁, hstep, h₁⟩ := h.step hq.1
    obtain ⟨a₂, hrest, h₂⟩ := ih h₁ hq.2
    refine ⟨a₂, ?_, h₂⟩
    intro later
    rw [List.cons_append, App.loop, hstep]
    exact hrest later

/-- What ends the player is the last thing that it takes. -/
theorem Stands.loop_quit (h : Stands resource b releases bill a) {happening : Happening σ}
    (hq : happening.quits b = true) (later : List (Happening σ)) :
    a.loop (happening :: later) = (.ok (), a.heard) := by
  cases happening with
  | event e =>
    have hp : b.purposeOf e = .quit := of_decide_eq_true hq
    rw [App.loop, h.step_event, hp]
  | _ => cases hq

/-- An event for the story is dispatched, -/
theorem Stands.loop_story (h : Stands resource b releases bill a) {e : Event}
    (hp : b.purposeOf e = .story) : a.loop [.event e] = (.ok (), a.heard.dispatch e) := by
  rw [App.loop, h.step_event, hp]
  rfl

/-- the reload key replaces the mount when it is pressed, -/
theorem Stands.loop_reload (h : Stands resource b releases bill a) {e : Event}
    (hp : b.purposeOf e = .reload) :
    ∃ t, a.terminal.Writes
        (TerminalInput.detaching releases ++ TerminalInput.attaching releases) t ∧
      a.loop [.event e] = (.ok (), a.remounted t) := by
  obtain ⟨t, hremount, hwrites⟩ := h.heard.remount_eq
  refine ⟨t, a.terminal.writes_readEvent.trans hwrites, ?_⟩
  rw [App.loop, h.step_event, hp]
  simp only [hremount]
  rfl

/-- and every other event leaves everything but the terminal as it is. -/
theorem Stands.loop_kept (h : Stands resource b releases bill a) {e : Event}
    (hstory : b.purposeOf e ≠ .story) (hreload : b.purposeOf e ≠ .reload) :
    ∃ t, a.terminal.Writes [] t ∧ a.loop [.event e] = (.ok (), a.withTerminal t) := by
  rw [App.loop, h.step_event]
  cases hp : b.purposeOf e with
  | story => exact absurd hp hstory
  | reload => exact absurd hp hreload
  | resize =>
    obtain ⟨t, hredrawn, hwrites⟩ := redrawn_eq h.heard.isReliable
    refine ⟨t, a.terminal.writes_readEvent.trans hwrites, ?_⟩
    simp only [hredrawn]
    rfl
  | _ => exact ⟨_, a.terminal.writes_readEvent, rfl⟩

/-- The terminal that the player has taken over, which never fails. -/
def stage (size : Screen.Size) (releases : Bool) : Terminal :=
  (acquire (.reliable size releases)).2

/-- The player after some happenings on such a terminal. -/
def playedOn (resource : String) (b : KeyBindings) (size : Screen.Size) (releases : Bool)
    (happenings : List (Happening σ)) : Except PlayError Unit × App σ :=
  playOn resource b (stage size releases) happenings

/-- Playing a story from start to end on such a terminal. -/
theorem run_reliable (resource : String) (b : KeyBindings) (size : Screen.Size) (releases : Bool)
    (happenings : List (Happening σ)) :
    run resource b (.reliable size releases) happenings =
      ((playedOn resource b size releases happenings).1,
        giveBack (playedOn resource b size releases happenings).2.dispatcher.release.terminal) :=
  rfl

theorem isReliable_stage (size : Screen.Size) (releases : Bool) :
    (stage size releases).IsReliable := fun _ => rfl

/-- The first mount. -/
theorem exists_stands (resource : String) (b : KeyBindings) (size : Screen.Size)
    (releases : Bool) :
    ∃ a : App σ, Stands resource b releases ⟨[], []⟩ a ∧
      ∀ happenings, playedOn resource b size releases happenings = a.loop happenings := by
  obtain ⟨t, hmount, hwrites⟩ :=
    mount_eq (isReliable_stage size releases)
      (blank resource b (stage size releases) : App σ)
  have hreports : t.reportsReleases = releases := hwrites.reportsReleases
  refine ⟨(blank resource b (stage size releases) : App σ).mounted t, ?_, ?_⟩
  · refine ⟨rfl, rfl, hwrites.isReliable (isReliable_stage size releases), hreports, hreports, ?_,
      rfl, rfl, hwrites.switches⟩
    show some (Route.mk () t.trigger) = _
    rw [Terminal.trigger, hreports]
  · intro happenings
    rw [playedOn, playOn, hmount]

/-- **Any happenings:** the player stands where their bill leads it. Unless they have ended it, it
goes on from there. -/
theorem exists_playedOn (resource : String) (b : KeyBindings) (size : Screen.Size)
    (releases : Bool) (happenings : List (Happening σ)) :
    ∃ a, Stands resource b releases (.played b releases happenings) a ∧
      ∀ later, playedOn resource b size releases (happenings ++ later) =
        if happenings.any (·.quits b) then (.ok (), a) else a.loop later := by
  obtain ⟨a₀, h₀, hplayed⟩ := exists_stands (σ := σ) resource b size releases
  have hquiet : (Happening.taken b happenings).any (·.quits b) = false := by
    rw [List.any_eq_not_all_not, Happening.taken, List.all_takeWhile]
    rfl
  have hsplit :
      Happening.taken b happenings ++ happenings.dropWhile (fun h => !h.quits b) = happenings :=
    List.takeWhile_append_dropWhile
  obtain ⟨a, hloop, h⟩ := h₀.loop hquiet
  -- What is taken leads to `a`. Either that is all, or what comes next ends the player.
  cases hd : happenings.dropWhile (fun h => !h.quits b) with
  | nil =>
    rw [hd, List.append_nil] at hsplit
    rw [hsplit] at hquiet hloop
    refine ⟨a, h, ?_⟩
    intro later
    rw [hplayed, hloop, hquiet]
    rfl
  | cons happening rest =>
    have hq : happening.quits b = true := by
      have hnot := List.head?_dropWhile_not (fun h : Happening σ => !h.quits b) happenings
      rw [hd] at hnot
      simpa using hnot
    have hany : happenings.any (·.quits b) = true := by
      rw [← hsplit, hd, List.any_append, List.any_cons, hq]
      simp
    refine ⟨a.heard, h.heard, ?_⟩
    intro later
    have htail :
        happenings ++ later = Happening.taken b happenings ++ happening :: (rest ++ later) := by
      rw [← List.cons_append, ← hd, ← List.append_assoc, hsplit]
    rw [hplayed, htail, hloop, h.loop_quit hq, if_pos hany]

/-! ## Every run -/

/-- How often the story is mounted anew. -/
def reloadCount (b : KeyBindings) (happenings : List (Happening σ)) : Nat :=
  (Happening.eventsTaken b happenings).countP (Bill.reloads b)

/-- The player's own keys never reach the story, and mounts never overlap. -/
structure MountsApart (resource : String) (b : KeyBindings) (size : Screen.Size) (releases : Bool)
    (happenings : List (Happening σ)) : Prop where
  /-- Once an event has ended the player, nothing has an effect any more. -/
  ended : happenings.any (·.quits b) = true → ∀ later,
    playedOn resource b size releases (happenings ++ later) =
      playedOn resource b size releases happenings
  /-- Until then the player goes on. -/
  goesOn : happenings.any (·.quits b) = false → ∀ later,
    playedOn resource b size releases (happenings ++ later) =
      (playedOn resource b size releases happenings).2.loop later
  /-- The mounted room is what the acts of its time make of a new one, -/
  room : (playedOn resource b size releases happenings).2.room =
    RoomAct.roomAfter resource (Bill.played b releases happenings).current
  /-- and so are the earlier ones. -/
  earlier : (playedOn resource b size releases happenings).2.earlier =
    (Bill.played b releases happenings).earlier.map (RoomAct.roomAfter resource)
  /-- A mount that has been given up is gone: it has no session, and once nobody loads there any more,
  every gate through which something could be published has been revoked. -/
  dropped : ∀ r ∈ (playedOn resource b size releases happenings).2.earlier,
    r.controller.active = none ∧
      (r.isBusy = false → ∀ gate ∈ r.controller.board.gates, gate = .revoked)
  /-- The commands that they get are the translations of the events of their time that are for the
  story. -/
  commands : (Bill.played b releases happenings).commands =
    ((Happening.eventsTaken b happenings).splitOnP (Bill.reloads b)).map
      (Bill.translations b (.ofReports releases))
  /-- An event for the story is dispatched once, to the mount of its time. -/
  story : happenings.any (·.quits b) = false → ∀ e, b.purposeOf e = .story →
    (playedOn resource b size releases (happenings ++ [.event e])).2 =
      (playedOn resource b size releases happenings).2.heard.dispatch e
  /-- The reload key replaces the mount when it is pressed: the listeners are detached before they
  are attached anew, -/
  reload : happenings.any (·.quits b) = false → ∀ e, b.purposeOf e = .reload →
    ∃ t, (playedOn resource b size releases happenings).2.terminal.Writes
        (TerminalInput.detaching releases ++ TerminalInput.attaching releases) t ∧
      (playedOn resource b size releases (happenings ++ [.event e])).2 =
        (playedOn resource b size releases happenings).2.remounted t
  /-- the old room is left to itself if somebody loads there, and otherwise only its session is taken
  out, whose gate is revoked, -/
  replaced : happenings.any (·.quits b) = false → ∀ e, b.purposeOf e = .reload →
    ∀ old, old = (playedOn resource b size releases happenings).2.room → ∃ left,
      (playedOn resource b size releases (happenings ++ [.event e])).2.earlier =
        (playedOn resource b size releases happenings).2.earlier ++ [left] ∧
      (old.controller.active = none → left = old) ∧
      ∀ a, old.controller.active = some a → left.controller.active = none ∧
        left.controller.board = old.controller.board.revoke a.gate ∧
        left.controller.received = old.controller.received ∧ left.isBusy = false
  /-- and the new room shows the placeholder and has been asked for the same story. -/
  anew : happenings.any (·.quits b) = false → ∀ e, b.purposeOf e = .reload →
    ∀ new, new = (playedOn resource b size releases (happenings ++ [.event e])).2 →
      new.room.controller.board.current = .placeholder ∧ new.room.controller.board.count = 0 ∧
        new.room.waiting = [(loader, resource)] ∧ new.awaiting = true ∧ new.state = .loading
  /-- Every other event leaves everything but the terminal as it is. -/
  kept : happenings.any (·.quits b) = false → ∀ e, b.purposeOf e ≠ .story →
    b.purposeOf e ≠ .reload →
    ∃ t, (playedOn resource b size releases happenings).2.terminal.Writes [] t ∧
      (playedOn resource b size releases (happenings ++ [.event e])).2 =
        (playedOn resource b size releases happenings).2.withTerminal t
  /-- While the player goes on, the listeners of one mount are attached. -/
  listening : (playedOn resource b size releases happenings).2.terminal.switches =
    TerminalInput.listeners releases (reloadCount b happenings) ++ TerminalInput.attaching releases
  /-- In the end they have been attached and detached in turn, once for each mount, -/
  switches : (run resource b (.reliable size releases) happenings).1 = .ok () ∧
    (run resource b (.reliable size releases) happenings).2.switches =
      TerminalInput.listeners releases (reloadCount b happenings + 1)
  /-- there have never been two at once, and the last ones are detached. -/
  balanced : Balanced .enableMouse .disableMouse
      (run resource b (.reliable size releases) happenings).2.switches ∧
    Balanced .pushKeyboard .popKeyboard
      (run resource b (.reliable size releases) happenings).2.switches

theorem Stands.switches_eq {happenings : List (Happening σ)}
    (h : Stands resource b releases (Bill.played b releases happenings) a) :
    a.terminal.switches =
      TerminalInput.listeners releases (reloadCount b happenings) ++
        TerminalInput.attaching releases := by
  rw [h.switches, Bill.played, Bill.length_earlier_of]
  rfl

/-- When the player has stopped, its last listeners are detached. -/
theorem Stands.switches_release {happenings : List (Happening σ)}
    (h : Stands resource b releases (Bill.played b releases happenings) a) :
    (giveBack a.dispatcher.release.terminal).switches =
      TerminalInput.listeners releases (reloadCount b happenings + 1) := by
  have hrelease := writes_release h.isReliable h.route
  have hback (t : Terminal) (ht : t.IsReliable) : (giveBack t).switches = t.switches := by
    rw [giveBack]
    simp only [Terminal.perform_eq ht, Terminal.perform_did ht]
    rw [Terminal.switches_did]
    exact List.append_nil _
  rw [hback _ (hrelease.isReliable h.isReliable), hrelease.switches, h.switches_eq, h.enhanced,
    TerminalInput.listeners_succ, List.append_assoc]

/-- **The player's own keys never reach the story, and mounts never overlap,** whatever the bindings
are and whatever happens, on a terminal that never fails. -/
theorem mountsApart (resource : String) (b : KeyBindings) (size : Screen.Size) (releases : Bool)
    (happenings : List (Happening σ)) : MountsApart resource b size releases happenings := by
  obtain ⟨a, h, hplayed⟩ := exists_playedOn resource b size releases happenings
  have hnow : playedOn resource b size releases happenings = (.ok (), a) := by
    have hnil := hplayed []
    rw [List.append_nil] at hnil
    rw [hnil]
    split
    · rfl
    · rfl
  have hlater (hq : happenings.any (·.quits b) = false) (later : List (Happening σ)) :
      playedOn resource b size releases (happenings ++ later) = a.loop later := by
    rw [hplayed, hq]
    rfl
  have hrun : run resource b (.reliable size releases) happenings =
      (.ok (), giveBack a.dispatcher.release.terminal) := by
    rw [run_reliable, hnow]
  exact {
    ended := by
      intro hq later
      rw [hplayed, if_pos hq, hnow]
    goesOn := by
      intro hq later
      rw [hlater hq, hnow]
    room := by
      rw [hnow]
      exact h.room
    earlier := by
      rw [hnow]
      exact h.earlier
    dropped := by
      intro r hr
      rw [hnow, h.earlier] at hr
      obtain ⟨acts, hacts, rfl⟩ := List.mem_map.mp hr
      obtain ⟨before, rfl⟩ := List.getLast?_eq_some_iff.mp (Bill.getLast?_of_mem_earlier _ _ hacts)
      rw [RoomAct.roomAfter_append]
      exact (RoomAct.tidy_roomAfter resource before).gone
    commands := Bill.commands_of b (.ofReports releases) (Happening.taken b happenings)
    story := by
      intro hq e hp
      rw [hlater hq, hnow, h.loop_story hp]
    reload := by
      intro hq e hp
      obtain ⟨t, hwrites, hloop⟩ := h.loop_reload hp
      rw [hlater hq, hnow, hloop]
      exact ⟨t, hwrites, rfl⟩
    replaced := by
      intro hq e hp old hold
      obtain ⟨t, -, hloop⟩ := h.loop_reload hp
      rw [hnow] at hold
      subst hold
      refine ⟨a.room.left, ?_, Room.left_of_none, fun s hs => ?_⟩
      · rw [hlater hq, hloop, hnow]
        rfl
      · have htidy : a.room.Tidy := h.room ▸ RoomAct.tidy_roomAfter resource _
        rw [Room.left_of_some (htidy.not_isBusy hs) hs]
        exact ⟨rfl, rfl, rfl, htidy.not_isBusy hs⟩
    anew := by
      intro hq e hp new hnew
      obtain ⟨t, -, hloop⟩ := h.loop_reload hp
      rw [hnew, hlater hq, hloop]
      refine ⟨rfl, rfl, ?_, rfl, rfl⟩
      show [(loader, a.resource)] = _
      rw [h.story]
    kept := by
      intro hq e hstory hreload
      obtain ⟨t, hwrites, hloop⟩ := h.loop_kept hstory hreload
      rw [hlater hq, hnow, hloop]
      exact ⟨t, hwrites, rfl⟩
    listening := by
      rw [hnow]
      exact h.switches_eq
    switches := by
      rw [hrun]
      exact ⟨rfl, h.switches_release⟩
    balanced := by
      rw [hrun, h.switches_release]
      exact TerminalInput.balanced_listeners releases _ }

/-! ### Two reloads -/

/-- A rehearsal whose story is found at once. -/
def found : Engine RehearsedSession := Rehearsal.engine ⟨.pull, 0, [.plain], []⟩

/-- The story is loaded, takes a key, and is mounted anew. The second mount is given up while it loads,
and its loading is over later. -/
def twoReloads : List (Happening RehearsedSession) :=
  [.work found, .work found, .event (.key ⟨.char 'x', .none, .press⟩),
    .event (.key ⟨.function 5, .none, .press⟩), .work found,
    .event (.key ⟨.function 5, .none, .press⟩), .strayWork 1 found,
    .event (.key ⟨.escape, .none, .press⟩), .event (.key ⟨.char 'y', .none, .press⟩)]

/-- Only the first mount gets a command. In the end both earlier mounts are gone. -/
theorem mountsApart_of_twoReloads :
    MountsApart "a.ks" .default ⟨80, 24⟩ false twoReloads ∧
    (Bill.played .default false twoReloads).commands = [[.key "x"], [], []] ∧
    (playedOn "a.ks" .default ⟨80, 24⟩ false (twoReloads.take 6)).2.earlier.map Room.isBusy =
      [false, true] ∧
    (playedOn "a.ks" .default ⟨80, 24⟩ false twoReloads).2.earlier.map
        (fun r => (r.isBusy, r.controller.isLoaded, r.controller.board.gates)) =
      [(false, false, [.revoked]), (false, false, [.revoked])] :=
  ⟨mountsApart "a.ks" .default ⟨80, 24⟩ false twoReloads, rfl, rfl, by decide +kernel⟩

end App

end StoryPlayer
