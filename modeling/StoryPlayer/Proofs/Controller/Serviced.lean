import StoryPlayer.Proofs.Controller.AtOnce

/-!
# Inputs are serviced whole, once each and in order

Of the callers with commands some are sent away, and each of the others gets the session once, for the
command that it came with. What is done with the session falls into one part for its start and one for
each of these callers, in the order in which they have obtained it.

* `Office.next_happens`: what an event enters in the roll of the callers.
* `Office.serviced_run`: every run.
-/

namespace StoryPlayer

namespace Office

variable {σ : Type} [Session σ] {engine : Engine σ} {o : Office σ}

/-! ## The callers with commands -/

def roll (o : Office σ) : Roll where
  inputs := Request.inputs o.lobby.requests
  ignored := o.room.handled .ignored
  queue := o.queue
  obtained := o.obtained
  evaluated := o.room.handled .evaluated
  holder? := o.service.bind Service.caller?

omit [Session σ] in
theorem complete_empty : (empty : Office σ).roll.Complete := ⟨.refl _, nofun, rfl⟩

omit [Session σ] in
theorem next_comeInput (o : Office σ) (command : Command) :
    o.roll.Next (o.comeInput command).roll := by
  have hinputs : Request.inputs (o.lobby.requests ++ [.input command]) =
      Request.inputs o.lobby.requests ++ [(o.lobby.requests.length, command)] :=
    Request.inputs_concat_input _ command
  by_cases hl : o.controller.isLoaded = true
  · have hroll : (o.comeInput command).roll = { o.roll with
        inputs := o.roll.inputs ++ [(o.lobby.requests.length, command)]
        queue := o.roll.queue ++ [(o.lobby.requests.length, command)] } := by
      rw [comeInput, if_pos hl, roll, roll, ← hinputs]
      rfl
    rw [hroll]
    exact .enqueue _
  · have hroll : (o.comeInput command).roll = { o.roll with
        inputs := o.roll.inputs ++ [(o.lobby.requests.length, command)]
        ignored := o.roll.ignored ++ [o.lobby.requests.length] } := by
      rw [comeInput, if_neg hl, roll, roll, ← hinputs]
      simp [room, withRoom, Room.handled_answer]
    rw [hroll]
    exact .ignore (_, command)

omit [Session σ] in
theorem next_obtain (o : Office σ) (caller : CallerId) : o.roll.Next (o.obtain caller).roll := by
  rw [obtain]
  split
  · rename_i a p hs ha hp
    have hfree : o.roll.holder? = none := by rw [roll, hs]; rfl
    exact .obtain p hfree (List.mem_of_find?_eq_some hp)
  · exact .stay

omit [Session σ] in
/-- What happens among those who load does not concern the callers with commands. -/
theorem roll_attend {l : Lobby σ} (hl : ∀ outcome, l.room.handled outcome = o.room.handled outcome)
    (hinputs : Request.inputs l.requests = Request.inputs o.lobby.requests) (notes : List Note) :
    ({ o with lobby := l }.note notes).roll = o.roll := by
  rw [roll, roll, ← hinputs, ← hl, ← hl]
  rfl

omit [Session σ] in
theorem roll_establish (o : Office σ) (a : Attempt σ) (session : σ) :
    (o.establish a session).roll = o.roll := by
  rw [establish]
  cases hs : o.service with
  | some s => rfl
  | none =>
    simp only [roll, hs]
    rfl

theorem roll_goOn {s : Service σ} (hs : o.service = some s) : (o.goOn s).roll = o.roll := by
  simp only [roll, goOn, hs]
  rfl

omit [Session σ] in
theorem next_release {s : Service σ} (hs : o.service = some s) :
    o.roll.Next (o.release s).roll := by
  have hholder : o.roll.holder? = s.caller? := by rw [roll, hs]; rfl
  rw [release]
  split
  · rename_i caller hcaller
    have hroll : { o.withRoom (o.room.answer caller (.handled .evaluated)) with
        service := none }.roll =
        { o.roll with evaluated := o.roll.evaluated ++ [caller], holder? := none } := by
      simp [roll, withRoom, room, Room.handled_answer]
    rw [hroll]
    exact .finish caller (hholder.trans hcaller)
  · rename_i a hcaller _
    have hroll : { o.withRoom (o.room.establish a s.hold.session) with service := none }.roll =
        { o.roll with holder? := none } := by
      have hhandled (outcome : InputOutcome) : (o.room.establish a s.hold.session).handled outcome =
          o.room.handled outcome := Room.handled_answer_loaded _ _ _ outcome
      simp only [roll, withRoom, ← hhandled]
      rfl
    have hnobody : { o.roll with holder? := none } = o.roll := by
      rw [← hcaller, ← hholder]
    rw [hroll, hnobody]
    exact .stay
  · exact .stay

/-- **Every event** is one entry in the roll, or none. -/
theorem next_happens {o' : Office σ} (h : Happens engine o o') : o.roll.Next o'.roll := by
  cases h with
  | idle => exact .stay
  | attend attends inputs =>
    rw [roll_attend attends.handled inputs]
    exact .stay
  | come command => exact next_comeInput o command
  | establish =>
    rw [roll_establish]
    exact .stay
  | obtain caller => exact next_obtain o caller
  | goOn service =>
    rw [roll_goOn service]
    exact .stay
  | release service => exact next_release service
  | push => exact .stay

/-! ## Every run -/

theorem complete_run (engine : Engine σ) (events : List Event) :
    (run engine events).roll.Complete := by
  have hrun : ∀ o : Office σ, o.roll.Complete → (events.foldl (happen engine) o).roll.Complete := by
    induction events with
    | nil => exact fun _ h => h
    | cons e rest ih => exact fun o h => ih _ (h.next (next_happens (happens_happen engine o e)))
  exact hrun empty complete_empty

/-- Whether there is a session, or one that is being shown. -/
def isLive (o : Office σ) : Bool := o.controller.isLoaded || o.service.isSome

/-- Inputs are serviced whole, once each and in order. -/
structure Serviced (engine : Engine σ) (o : Office σ) : Prop where
  /-- Before there is a session, nothing is done. -/
  before : o.isLive = false → o.dealings = [] ∧ o.obtained = []
  /-- What has been done with the session that the engine has made, and what is yet due to be done by
  the one who holds it, is that the session is read, and then that each command is evaluated and the
  session is read, in the order in which the callers have obtained it. What is yet due belongs to the
  last of them. -/
  dealt : o.isLive = true → ∃ attempt resource first,
    (engine.start attempt resource).outcome.2 = .ok first ∧
    (∀ id, o.controller.resource? = some id → id = resource) ∧
    o.dealings ++ o.due = (Session.blocks first o.commands).flatten ∧
    ∃ block, (Session.blocks first o.commands).getLast? = some block ∧ o.due <:+ block
  /-- All calls that sessions have received are noted. -/
  calls : o.controller.calls = o.notes.filterMap Note.call?
  /-- All publications are noted. -/
  published : Board.fresh.Publishes (o.notes.filterMap Note.view?) o.controller.board
  /-- Those who have obtained the session are answered in the same order, and are not answered as long
  as they hold it. -/
  answered : o.roll.evaluated ++ o.roll.holder?.toList = o.obtained.map Prod.fst
  /-- Callers obtain the session for the commands they came with, -/
  own : ∀ p ∈ o.obtained, o.lobby.requests[p.1]? = some (.input p.2)
  /-- and no more than once. -/
  once : (o.obtained.map Prod.fst).Nodup
  /-- Whoever has been sent away does not come back. -/
  ignored : ∀ caller ∈ o.roll.ignored,
    caller ∉ o.queue.map Prod.fst ∧ caller ∉ o.obtained.map Prod.fst
  /-- Nobody is forgotten. -/
  present : ∀ caller command, o.lobby.requests[caller]? = some (.input command) →
    caller ∈ o.roll.ignored ∨ (caller, command) ∈ o.queue ∨ (caller, command) ∈ o.obtained

theorem Phase.before (h : Phase engine o) (hl : o.isLive = false) :
    o.dealings = [] ∧ o.obtained = [] := by
  rw [isLive, Bool.or_eq_false_iff] at hl
  obtain ⟨hloaded, hservice⟩ := hl
  cases h with
  | unloaded _ _ _ obtained dealings => exact ⟨dealings, obtained⟩
  | opening a first hold active service =>
    rw [service] at hservice
    cases hservice
  | free a first active =>
    rw [Controller.isLoaded, active] at hloaded
    cases hloaded
  | held a first caller command hold before active =>
    rw [Controller.isLoaded, active] at hloaded
    cases hloaded

theorem Dealing.dealt (h : Dealing engine o) (hl : o.isLive = true) : ∃ attempt resource first,
    (engine.start attempt resource).outcome.2 = .ok first ∧
    (∀ id, o.controller.resource? = some id → id = resource) ∧
    o.dealings ++ o.due = (Session.blocks first o.commands).flatten ∧
    ∃ block, (Session.blocks first o.commands).getLast? = some block ∧ o.due <:+ block := by
  cases h.phase with
  | unloaded active service =>
    rw [isLive, Controller.isLoaded, active, service] at hl
    cases hl
  | opening a first hold active service made left queue obtained due dealings =>
    obtain ⟨hrunning, hrest⟩ := Room.made?_eq_some made
    obtain ⟨-, hmade⟩ := h.attempt a hrunning
    rw [hrest] at hmade
    have hcommands : o.commands = [] := congrArg (List.map Prod.snd) obtained
    have hdue : o.due = hold.due := due_of_some service
    refine ⟨a.gate, a.resource, first, hmade.symm, ?_, ?_, ?_⟩
    · intro id hid
      rw [Controller.resource?, active] at hid
      cases hid
    · rw [hdue, dealings, hcommands]
      exact (List.append_nil _).symm
    · rw [hdue, hcommands]
      exact ⟨_, rfl, due⟩
  | free a first active service made session dealings =>
    have hdue : o.due = [] := due_of_none service
    refine ⟨a.gate, a.resource, first, made, ?_, ?_, ?_⟩
    · intro id hid
      rw [Controller.resource?, active] at hid
      exact (Option.some.inj hid).symm
    · rw [hdue, List.append_nil, dealings]
    · rw [hdue]
      exact ⟨_, List.getLast?_eq_some_getLast (List.cons_ne_nil _ _), List.nil_suffix⟩
  | held a first caller command hold before active service made obtained session left due
      dealings =>
    have hdue : o.due = hold.due := due_of_some service
    have hcommands : o.commands = before.map Prod.snd ++ [command] := by
      rw [commands, obtained, List.map_append]
      rfl
    refine ⟨a.gate, a.resource, first, made, ?_, ?_, ?_⟩
    · intro id hid
      rw [Controller.resource?, active] at hid
      exact (Option.some.inj hid).symm
    · rw [hdue, dealings]
    · rw [hdue, hcommands, Session.blocks_concat, List.getLast?_concat]
      exact ⟨_, rfl, due⟩

theorem Dealing.serviced (h : Dealing engine o) (hroll : o.roll.Complete) : Serviced engine o where
  before := h.phase.before
  dealt := h.dealt
  calls := by
    rw [Controller.calls, h.received, List.reverse_reverse]
  published := h.published
  answered := hroll.answered
  own p hp := Request.mem_inputs.mp (hroll.own p (List.mem_append_right _ hp))
  once := (hroll.nodup rfl).1
  ignored := (hroll.nodup rfl).2
  present := by
    intro caller command hrequest
    have hinput : (caller, command) ∈ o.roll.inputs := Request.mem_inputs.mpr hrequest
    exact hroll.present rfl hinput

theorem prefix_ignored_run (engine : Engine σ) (events later : List Event) :
    (run engine events).roll.ignored <+: (run engine (events ++ later)).roll.ignored := by
  rw [run_append]
  generalize run engine events = o
  induction later generalizing o with
  | nil => exact List.prefix_refl _
  | cons e rest ih =>
    exact (next_happens (happens_happen engine o e)).prefix_ignored.trans (ih (o.happen engine e))

theorem prefix_evaluated_foldl (engine : Engine σ) (o : Office σ) (events : List Event) :
    o.roll.evaluated <+: (events.foldl (happen engine) o).roll.evaluated := by
  induction events generalizing o with
  | nil => exact List.prefix_refl _
  | cons e rest ih =>
    exact (next_happens (happens_happen engine o e)).prefix_evaluated.trans (ih (o.happen engine e))

omit [Session σ] in
/-- When nobody holds the session, all who have obtained it are answered. -/
theorem evaluated_eq (hroll : o.roll.Complete) (hs : o.service = none) :
    o.roll.evaluated = o.obtained.map Prod.fst := by
  have hanswered := hroll.answered
  have hnobody : o.roll.holder? = none := by rw [roll, hs]; rfl
  rw [hnobody, Option.toList_none, List.append_nil] at hanswered
  exact hanswered

/-- Whatever happens, what is due is done, and those who have obtained the session are answered, once
the session has been served often enough. -/
theorem answered_run (engine : Engine σ) (events later : List Event)
    (hn : (run engine events).size < later.countP Event.isServe) :
    (run engine events).dealings ++ (run engine events).due <+:
        (run engine (events ++ later)).dealings ∧
      (run engine events).obtained.map Prod.fst <+:
        (run engine (events ++ later)).roll.evaluated := by
  cases hs : (run engine events).service with
  | none =>
    rw [due_of_none hs, List.append_nil, run_append, ← evaluated_eq (complete_run engine events) hs]
    exact ⟨prefix_dealings_foldl engine _ later, prefix_evaluated_foldl engine _ later⟩
  | some s =>
    rw [size, hs] at hn
    obtain ⟨before, after, s', rfl, hservice, hfinished, hdealings, hobtained⟩ :=
      exists_finished engine hs hn
    rw [← run_append] at hservice hdealings hobtained
    -- The session is let go after `before`, and what comes after that takes nothing back.
    obtain ⟨hfree, hreleased, hsame⟩ :=
      (dealing_run engine (events ++ before)).service_release hservice
    have hserve : run engine (events ++ before ++ [.serve]) =
        (run engine (events ++ before)).release s' := by
      rw [run_append engine (events ++ before)]
      exact happen_serve_of_finished engine hservice hfinished
    rw [← hserve] at hfree hreleased hsame
    have hevents : events ++ (before ++ .serve :: after) = events ++ before ++ [.serve] ++ after := by
      simp
    rw [hevents, run_append engine (events ++ before ++ [Event.serve]), ← hdealings, ← hreleased,
      ← hobtained, ← hsame, ← evaluated_eq (complete_run engine _) hfree]
    exact ⟨prefix_dealings_foldl engine _ after, prefix_evaluated_foldl engine _ after⟩

/-- **Inputs are serviced whole, once each and in order**, whatever the engine does, in whatever order
callers come, load, obtain the session and take their steps, and whatever is pushed in between. A
caller who comes while there is no session is sent away without any call or publication, and its
command is never evaluated later. Whoever holds the session does what is due next whenever it is
served, and if it is served often enough, it does all that is due and is answered.

The steps of the one who holds the session are those of `Controller.handle` and of the showing of a new
session (`Controller.Serves.handle` and `Controller.Serves.rebuild`), and callers who are served at
once are one of the courses (`exists_run_of_lobby`). -/
theorem serviced_run (engine : Engine σ) (events : List Event) :
    Serviced engine (run engine events) ∧
    (∀ command, (run engine events).controller.isLoaded = false →
      (run engine (events ++ [.among (.come (.input command))])).controller =
        (run engine events).controller ∧
      (run engine (events ++ [.among (.come (.input command))])).notes =
        (run engine events).notes ∧
      (run engine (events ++ [.among (.come (.input command))])).roll.ignored =
        (run engine events).roll.ignored ++ [(run engine events).lobby.requests.length]) ∧
    (∀ later, ∀ caller ∈ (run engine events).roll.ignored,
      caller ∉ (run engine (events ++ later)).obtained.map Prod.fst) ∧
    (∃ done, (run engine (events ++ [.serve])).dealings = (run engine events).dealings ++ done ∧
      done ++ (run engine (events ++ [.serve])).due = (run engine events).due) ∧
    ∀ later, (run engine events).size < later.countP Event.isServe →
      (run engine events).dealings ++ (run engine events).due <+:
          (run engine (events ++ later)).dealings ∧
        (run engine events).obtained.map Prod.fst <+:
          (run engine (events ++ later)).roll.evaluated := by
  have hserviced (events : List Event) : Serviced engine (run engine events) :=
    (dealing_run engine events).serviced (complete_run engine events)
  refine ⟨hserviced events, ?_, ?_, ?_, answered_run engine events⟩
  · intro command hl
    have hcome : run engine (events ++ [.among (.come (.input command))]) =
        (run engine events).comeInput command := run_append engine events _
    rw [hcome, comeInput, hl]
    exact ⟨rfl, rfl, Room.handled_answer _ _ _ _⟩
  · intro later caller hcaller
    have hlater := (prefix_ignored_run engine events later).subset hcaller
    exact ((hserviced (events ++ later)).ignored caller hlater).2
  · rw [run_append]
    exact (dealing_run engine events).happen_serve

/-- An engine with a single line to show and one to show after a key. -/
def oneLine : Engine RehearsedSession :=
  Rehearsal.engine ⟨.pull, 0, [⟨[], none, ⟨["a"], []⟩⟩], [("x", [⟨[], []⟩])]⟩

/-- A caller comes while the session is being shown. Two more come after it, and obtain the session the
other way round. The last of them still holds it. -/
def twoCommands : List Event :=
  [.among (.come (.load "s")), .among (.ask 0), .among .step, .serve,
    .among (.come (.input .pointer)), .serve, .serve, .serve, .serve, .serve,
    .among (.come (.input .pointer)), .among (.come (.input (.key "x"))), .obtain 3, .serve,
    .obtain 2, .serve, .serve, .serve, .serve, .serve, .obtain 2, .serve]

/-- The first command is dropped, and the other two are serviced one at a time. -/
theorem serviced_run_of_two_commands :
    Serviced oneLine (run oneLine twoCommands) ∧
    (run oneLine twoCommands).controller.calls =
      [.lineCount, .line 0, .image 0, .evaluate (.key "x"), .lineCount, .image 0,
        .evaluate .pointer] ∧
    (run oneLine twoCommands).roll.ignored = [1] ∧
    (run oneLine twoCommands).roll.evaluated = [3] ∧
    (run oneLine twoCommands).roll.holder? = some 2 ∧
    (run oneLine twoCommands).size < 5 ∧
    [3, 2] <+: (run oneLine (twoCommands ++ List.replicate 5 .serve)).roll.evaluated :=
  ⟨(serviced_run oneLine twoCommands).1, rfl, rfl, rfl, rfl, by decide +kernel,
    ((serviced_run oneLine twoCommands).2.2.2.2 (List.replicate 5 .serve) (by decide +kernel)).2⟩

end Office

end StoryPlayer
