import StoryPlayer.Proofs.Controller.Progress

/-!
# Commands that are taken at once

In a lobby a command is answered at once. That is one of the courses of an office: whoever obtains the
session does all that is due before anything else happens.

* `Office.exists_events_serves`: some steps in a row.
* `Office.exists_events_happen`: one event of a lobby.
* `Office.exists_run_of_lobby`: every run of a lobby.
-/

namespace StoryPlayer

namespace Office

variable {σ : Type} [Session σ] {o : Office σ}

/-- Nobody waits for the session, and nobody holds it. -/
structure Quiet (o : Office σ) : Prop where
  service : o.service = none
  queue : o.queue = []

/-- The one who holds the session takes some steps in a row. -/
theorem exists_events_serves (engine : Engine σ) {c c' : Controller σ} {hold hold' : Hold σ}
    (hs : c.Serves hold c' hold') (caller? : Option CallerId) (o : Office σ)
    (hc : o.controller = c) (ho : o.service = some ⟨caller?, hold⟩) :
    ∃ (events : List Event) (notes : List Note), events.foldl (happen engine) o =
      { o.withController c' with service := some ⟨caller?, hold'⟩, notes } := by
  induction hs generalizing o with
  | refl c hold =>
    refine ⟨[], o.notes, ?_⟩
    rw [← hc, ← ho]
    rfl
  | @head c c' hold hold' unfinished rest ih =>
    have hstep := happen_serve_of_unfinished engine ho unfinished
    subst hc
    obtain ⟨events, notes, hrest⟩ := ih (o.goOn ⟨caller?, hold⟩) rfl rfl
    refine ⟨.serve :: events, notes, ?_⟩
    rw [List.foldl_cons, hstep, hrest]
    rfl

/-- A command is taken at once. -/
theorem exists_events_comeInput (engine : Engine σ) (h : o.Quiet) (command : Command) :
    ∃ events : List Event, (events.foldl (happen engine) o).Quiet ∧
      (events.foldl (happen engine) o).lobby = o.lobby.happen engine (.come (.input command)) := by
  cases ha : o.lobby.room.controller.active with
  | none =>
    refine ⟨[.among (.come (.input command))], ?_⟩
    have hl : ¬ o.controller.isLoaded = true := by
      rw [Controller.isLoaded, controller, ha]
      exact Bool.false_ne_true
    rw [List.foldl_cons, List.foldl_nil, happen, comeInput, if_neg hl, Lobby.happen, Room.enter,
      Controller.handle_of_none ha]
    exact ⟨⟨h.service, h.queue⟩, rfl⟩
  | some a =>
    have hl : o.controller.isLoaded = true := by
      rw [Controller.isLoaded, controller, ha]
      rfl
    let caller := o.lobby.requests.length
    let hold : Hold σ := ⟨a.session, a.gate, .evaluating command⟩
    let o' : Office σ :=
      { o with
        lobby := { o.lobby with requests := o.lobby.requests ++ [.input command] }
        queue := []
        obtained := o.obtained ++ [(caller, command)]
        service := some ⟨some caller, hold⟩ }
    have hobtained : [.among (.come (.input command)), .obtain caller].foldl (happen engine) o =
        o' := by
      have hqueue : (o.comeInput command).queue = [(caller, command)] := by
        rw [comeInput, if_pos hl, h.queue]
        rfl
      have hactive : (o.comeInput command).controller.active = some a := by
        rw [comeInput, if_pos hl]
        exact ha
      have hservice : (o.comeInput command).service = none := by
        rw [comeInput, if_pos hl]
        exact h.service
      show (o.comeInput command).obtain caller = o'
      have hfind : [(caller, command)].find? (·.1 = caller) = some (caller, command) := by simp
      rw [obtain, hservice, hactive, hqueue, hfind]
      simp only [List.erase_cons_head, comeInput, if_pos hl]
      rfl
    obtain ⟨events, notes, hserves⟩ :=
      exists_events_serves engine (.handle o.controller ha command) (some caller) o' rfl rfl
    refine ⟨[.among (.come (.input command)), .obtain caller] ++ events ++ [.serve], ?_⟩
    rw [List.foldl_append, List.foldl_append, hobtained, hserves, List.foldl_cons, List.foldl_nil,
      happen_serve_of_finished engine rfl rfl]
    have henter : o.lobby.room.enter engine caller (.input command) =
        { o.lobby.room with controller := (o.controller.handle command).1 }.answer caller
          (.handled .evaluated) := by
      obtain ⟨-, -, houtcome⟩ := Controller.handle_frame o.controller command
      rw [if_pos hl] at houtcome
      rw [← houtcome]
      rfl
    rw [Lobby.happen, henter]
    exact ⟨⟨rfl, rfl⟩, rfl⟩

/-- A session that has been made is shown at once. -/
theorem exists_events_establish (engine : Engine σ) (h : o.Quiet) {a : Attempt σ} {session : σ}
    (hm : o.room.made? = some (a, session)) :
    ∃ events : List Event, (events.foldl (happen engine) o).Quiet ∧
      (events.foldl (happen engine) o).lobby = o.lobby.happen engine .step := by
  obtain ⟨hrunning, hrest⟩ := Room.made?_eq_some hm
  have hstep : o.happen engine (.among .step) = o.establish a session := by
    rw [happen, hm]
  let c : Controller σ := { o.controller with board := o.controller.board.arm a.gate }
  let o' := o.establish a session
  have ho' : o' = { o.withController c with
      service := some ⟨none, ⟨session, a.gate, .pushing []⟩⟩
      notes := o.notes ++ (o.controller.board.held? a.gate).toList.map .pushed } := by
    simp only [o', establish, h.service]
    rfl
  obtain ⟨events, notes, hserves⟩ :=
    exists_events_serves engine (.rebuild c session a.gate) none o' (by rw [ho']; rfl)
      (by rw [ho'])
  refine ⟨[.among .step] ++ events ++ [.serve], ?_⟩
  have hstep' : [.among .step].foldl (happen engine) o = o' := hstep
  have hattempt : o'.lobby.room.running = some a := by rw [ho']; exact hrunning
  rw [List.foldl_append, List.foldl_append, hstep', hserves, List.foldl_cons, List.foldl_nil,
    happen_serve_of_finished engine rfl rfl, release]
  simp only [withController, room, withRoom, hattempt]
  have hfinish : o.lobby.room.step engine = o.lobby.room.finish a (.ok session) := by
    rw [Room.step, show o.lobby.room.running = some a from hrunning]
    simp only [hrest]
  rw [Lobby.happen, hfinish, ho']
  exact ⟨⟨rfl, h.queue⟩, rfl⟩

theorem exists_events_happen (engine : Engine σ) (h : o.Quiet) (e : Lobby.Event) :
    ∃ events : List Event, (events.foldl (happen engine) o).Quiet ∧
      (events.foldl (happen engine) o).lobby = o.lobby.happen engine e := by
  cases e with
  | ask caller => exact ⟨[.among (.ask caller)], ⟨h.service, h.queue⟩, rfl⟩
  | step =>
    cases hm : o.room.made? with
    | some m => exact exists_events_establish engine h hm
    | none =>
      refine ⟨[.among .step], ?_⟩
      rw [List.foldl_cons, List.foldl_nil, happen, hm]
      exact ⟨⟨h.service, h.queue⟩, rfl⟩
  | come request =>
    cases request with
    | input command => exact exists_events_comeInput engine h command
    | load resource => exact ⟨[.among (.come (.load resource))], ⟨h.service, h.queue⟩, rfl⟩

/-- **Commands that are taken at once are one of the courses**: a lobby is an office in which whoever
obtains the session does all that is due before anything else happens. -/
theorem exists_run_of_lobby (engine : Engine σ) (events : List Lobby.Event) :
    ∃ course : List Event, (run engine course).Quiet ∧
      (run engine course).lobby = Lobby.run engine events := by
  induction events using List.reverseRecOn with
  | nil => exact ⟨[], ⟨rfl, rfl⟩, rfl⟩
  | append_singleton events e ih =>
    obtain ⟨course, hquiet, hlobby⟩ := ih
    obtain ⟨more, hquiet', hlobby'⟩ := exists_events_happen engine hquiet e
    refine ⟨course ++ more, ?_⟩
    rw [run_append, hlobby', hlobby, Lobby.run, Lobby.run, List.foldl_append]
    exact ⟨hquiet', rfl⟩

end Office

end StoryPlayer
