import StoryPlayer.Proofs.Controller.Attends

/-!
# Commands that wait for the session

Callers come with commands while others load, and a command is not taken at once: whoever finds a
session waits until it is free, in any order, and then deals with it step by step. Between any two
steps others come, attempts go on, and sessions push views. What is done with the session is all the
same one command after another.

* `Office.happen`: what can happen, and `Office.run`: all that can happen.
* `Office.Happens`: all that an event can do.
* `Office.Dealing`: what holds of the session at any time, kept by `Office.Dealing.happens`.
-/

namespace StoryPlayer

/-! ## Callers who wait for the session -/

/-- Somebody who holds the session: a caller with a command, or nobody yet while it is being shown for
the first time. -/
structure Service (σ : Type) where
  caller? : Option CallerId
  hold : Hold σ

/-- A lobby in which commands wait for the session. -/
structure Office (σ : Type) where
  lobby : Lobby σ
  /-- Those who have found a session and wait for it. -/
  queue : List (CallerId × Command)
  /-- Those who have obtained the session, in order. -/
  obtained : List (CallerId × Command)
  service : Option (Service σ)
  /-- What has been noted, in order. -/
  notes : List Note

/-- The end of an attempt whose session has been shown. -/
def Room.establish {σ : Type} (r : Room σ) (a : Attempt σ) (session : σ) : Room σ :=
  { r with
    controller := { r.controller with active := some ⟨a.resource, session, a.gate⟩ }
    running := none
    history := r.history ++ [Milestone.ended a.caller a.resource (.ok ())] }.answer a.caller
      (.loaded (.ok .started))

/-- The view that a gate holds. -/
def Board.held? (b : Board) (gate : GateId) : Option View :=
  match b.gates[gate]? with
  | some (.pending held) => held
  | _ => none

theorem Board.publishes_arm_held? (b : Board) (gate : GateId) :
    b.Publishes (b.held? gate).toList (b.arm gate) := by
  rw [held?]
  cases h : b.gates[gate]? with
  | none =>
    rw [arm, h]
    exact .refl b
  | some g =>
    cases g with
    | pending held => exact publishes_arm h
    | _ =>
      rw [arm, h]
      exact .refl b

namespace Office

variable {σ : Type} [Session σ]

/-- What can happen next. -/
inductive Event where
  /-- A caller comes, or something happens among those who load. -/
  | among (e : Lobby.Event)
  /-- A caller who waits for the session obtains it, if it is free. -/
  | obtain (caller : CallerId)
  /-- The one who holds the session takes a step, or lets it go. -/
  | serve
  /-- A view is pushed on some sink. -/
  | push (gate : GateId) (v : View)

/-- The office of a controller that is new. -/
def empty : Office σ := ⟨.empty, [], [], none, []⟩

section

variable (o : Office σ)

def room : Room σ := o.lobby.room

def controller : Controller σ := o.lobby.room.controller

/-- What has been done with the session. -/
def dealings : List Note := o.notes.filter Note.isDealing

/-- What the one who holds the session has yet to do with it. -/
def due : List Note := (o.service.map fun s => s.hold.due).getD []

def withRoom (r : Room σ) : Office σ := { o with lobby := { o.lobby with room := r } }

def withController (c : Controller σ) : Office σ := o.withRoom { o.room with controller := c }

def note (notes : List Note) : Office σ := { o with notes := o.notes ++ notes }

/-- A caller comes with a command. Without a session it is told so at once. -/
def comeInput (command : Command) : Office σ :=
  let caller := o.lobby.requests.length
  let o' : Office σ :=
    { o with lobby := { o.lobby with requests := o.lobby.requests ++ [.input command] } }
  if o.controller.isLoaded then { o' with queue := o.queue ++ [(caller, command)] }
  else o'.withRoom (o.room.answer caller (.handled .ignored))

/-- Something happens among those who load. -/
def attend (engine : Engine σ) (e : Lobby.Event) : Office σ :=
  { o with lobby := o.lobby.happen engine e }

/-- The gate of an attempt that has made a session is armed, and the session is going to be shown.
Callers do not find it before that is done. -/
def establish (a : Attempt σ) (session : σ) : Office σ :=
  match o.service with
  | some _ => o
  | none =>
    { o.withController { o.controller with board := o.controller.board.arm a.gate } with
      service := some ⟨none, ⟨session, a.gate, .pushing []⟩⟩
      notes := o.notes ++ (o.controller.board.held? a.gate).toList.map .pushed }

/-- A caller obtains the session. -/
def obtain (caller : CallerId) : Office σ :=
  match o.service, o.controller.active, o.queue.find? (·.1 = caller) with
  | none, some a, some p =>
    { o with
      queue := o.queue.erase p
      obtained := o.obtained ++ [p]
      service := some ⟨some p.1, ⟨a.session, a.gate, .evaluating p.2⟩⟩ }
  | _, _, _ => o

/-- The one who holds the session lets it go. -/
def release (s : Service σ) : Office σ :=
  match s.caller?, o.room.running with
  | some caller, _ =>
    { o.withRoom (o.room.answer caller (.handled .evaluated)) with service := none }
  | none, some a => { o.withRoom (o.room.establish a s.hold.session) with service := none }
  | none, none => o

/-- The one who holds the session takes a step. -/
def goOn (s : Service σ) : Office σ :=
  { o.withController (o.controller.serve s.hold).controller with
    service := some { s with hold := (o.controller.serve s.hold).hold }
    notes := o.notes ++ (o.controller.serve s.hold).notes }

end

def happen (engine : Engine σ) (o : Office σ) : Event → Office σ
  | .among (.come (.input command)) => o.comeInput command
  | .among .step =>
    match o.room.made? with
    | some (a, session) => o.establish a session
    | none => (o.attend engine .step).note (o.room.shown.map .pushed)
  | .among e => o.attend engine e
  | .obtain caller => o.obtain caller
  | .serve =>
    match o.service with
    | none => o
    | some s =>
      match s.hold.progress with
      | .finished => o.release s
      | _ => o.goOn s
  | .push gate v =>
    (o.withController (o.controller.push gate v)).note
      ((o.controller.board.letThrough gate v).map .pushed)

/-- What has become of an office after some events. -/
def run (engine : Engine σ) (events : List Event) : Office σ := events.foldl (happen engine) empty

theorem run_append (engine : Engine σ) (events later : List Event) :
    run engine (events ++ later) = later.foldl (happen engine) (run engine events) :=
  List.foldl_append

end Office

namespace Office

variable {σ : Type} [Session σ] {engine : Engine σ} {o : Office σ} {s : Service σ}

/-! ## What an event does -/

/-- A step of the one who holds the session and is not done. -/
theorem happen_serve_of_unfinished (engine : Engine σ) (hs : o.service = some s)
    (hp : s.hold.progress.isFinished = false) : o.happen engine .serve = o.goOn s := by
  rw [happen, hs]
  cases hprogress : s.hold.progress with
  | finished =>
    rw [hprogress] at hp
    cases hp
  | _ => simp only [hprogress]

/-- The one who holds the session has nothing more to do with it. -/
theorem happen_serve_of_finished (engine : Engine σ) (hs : o.service = some s)
    (hfinished : s.hold.progress = .finished) : o.happen engine .serve = o.release s := by
  rw [happen, hs]
  simp only [hfinished]

theorem due_of_none (hs : o.service = none) : o.due = [] := by
  rw [due, hs]
  rfl

theorem due_of_some (hs : o.service = some s) : o.due = s.hold.due := by
  rw [due, hs]
  rfl

omit [Session σ] in
theorem note_nil (o : Office σ) : o.note [] = o := by
  rw [note, List.append_nil]

/-- All that an event can do. -/
inductive Happens (engine : Engine σ) (o : Office σ) : Office σ → Prop
  /-- Nothing, because somebody else has the session or nobody does. -/
  | idle : Happens engine o o
  /-- Something happens among those who load, and publishes these views. -/
  | attend {l : Lobby σ} {views : List View} (attends : Room.Attends engine o.room l.room views)
      (inputs : Request.inputs l.requests = Request.inputs o.lobby.requests) :
      Happens engine o ({ o with lobby := l }.note (views.map .pushed))
  | come (command : Command) : Happens engine o (o.comeInput command)
  | establish {a : Attempt σ} {session : σ} (made : o.room.made? = some (a, session))
      (free : o.service = none) : Happens engine o (o.establish a session)
  | obtain (caller : CallerId) : Happens engine o (o.obtain caller)
  | goOn {s : Service σ} (service : o.service = some s)
      (unfinished : s.hold.progress.isFinished = false) : Happens engine o (o.goOn s)
  | release {s : Service σ} (service : o.service = some s)
      (finished : s.hold.progress = .finished) : Happens engine o (o.release s)
  | push (gate : GateId) (v : View) :
      Happens engine o ((o.withController (o.controller.push gate v)).note
        ((o.controller.board.letThrough gate v).map .pushed))

theorem happens_happen (engine : Engine σ) (o : Office σ) (e : Event) :
    Happens engine o (o.happen engine e) := by
  cases e with
  | push gate v => exact .push gate v
  | obtain caller => exact .obtain caller
  | serve =>
    cases hs : o.service with
    | none =>
      have hsame : o.happen engine .serve = o := by rw [happen, hs]
      rw [hsame]
      exact .idle
    | some s =>
      cases hp : s.hold.progress.isFinished with
      | true =>
        have hfinished := Progress.eq_finished hp
        rw [happen_serve_of_finished engine hs hfinished]
        exact .release hs hfinished
      | false =>
        rw [happen_serve_of_unfinished engine hs hp]
        exact .goOn hs hp
  | among e =>
    have hquiet (hloads : e.comesToLoad = true) : Happens engine o (o.attend engine e) := by
      obtain ⟨hattends, hinputs⟩ := Lobby.attends_happen engine o.lobby hloads
      have hattend : Happens engine o _ := .attend hattends hinputs
      rw [List.map_nil, note_nil] at hattend
      exact hattend
    cases e with
    | ask caller => exact hquiet rfl
    | step =>
      rw [happen]
      cases hm : o.room.made? with
      | none => exact .attend (Room.attends_steps (Room.steps_step engine _) hm) rfl
      | some m =>
        cases hs : o.service with
        | none => exact .establish hm hs
        | some s =>
          have hsame : o.establish m.1 m.2 = o := by rw [establish, hs]
          simp only [hsame]
          exact .idle
    | come request =>
      cases request with
      | input command => exact .come command
      | load resource => exact hquiet rfl

/-! ## What is done with the session -/

/-- The commands of those who have obtained the session. -/
def commands (o : Office σ) : List Command := o.obtained.map Prod.snd

/-- What has become of the session. -/
inductive Phase (engine : Engine σ) (o : Office σ) : Prop
  /-- There is none, and nothing has been done. -/
  | unloaded (active : o.controller.active = none) (service : o.service = none)
      (queue : o.queue = []) (obtained : o.obtained = []) (dealings : o.dealings = [])
  /-- One has been made and is being shown. -/
  | opening (a : Attempt σ) (first : σ) (hold : Hold σ) (active : o.controller.active = none)
      (service : o.service = some ⟨none, hold⟩) (made : o.room.made? = some (a, first))
      (left : hold.left = first) (queue : o.queue = []) (obtained : o.obtained = [])
      (due : hold.due <:+ Session.rebuilding first)
      (dealings : o.dealings ++ hold.due = Session.rebuilding first)
  /-- There is one, and it is free. -/
  | free (a : Active σ) (first : σ) (active : o.controller.active = some a)
      (service : o.service = none)
      (made : (engine.start a.gate a.resource).outcome.2 = .ok first)
      (session : a.session = Session.after first o.commands)
      (dealings : o.dealings = (Session.blocks first o.commands).flatten)
  /-- A caller holds it. -/
  | held (a : Active σ) (first : σ) (caller : CallerId) (command : Command) (hold : Hold σ)
      (before : List (CallerId × Command)) (active : o.controller.active = some a)
      (service : o.service = some ⟨some caller, hold⟩)
      (made : (engine.start a.gate a.resource).outcome.2 = .ok first)
      (obtained : o.obtained = before ++ [(caller, command)])
      (session : a.session = hold.session) (left : hold.left = Session.after first o.commands)
      (due : hold.due <:+ Session.servicing (Session.after first (before.map Prod.snd)) command)
      (dealings : o.dealings ++ hold.due = (Session.blocks first o.commands).flatten)

/-- What is done with the session, and what is published, at any time. -/
structure Dealing (engine : Engine σ) (o : Office σ) : Prop where
  published : Board.fresh.Publishes (o.notes.filterMap Note.view?) o.controller.board
  received : o.controller.received = (o.notes.filterMap Note.call?).reverse
  attempt : ∀ a ∈ o.room.running, o.controller.active = none ∧
    a.rest.outcome.2 = (engine.start a.gate a.resource).outcome.2
  phase : Phase engine o

theorem dealing_empty (engine : Engine σ) : Dealing engine (empty : Office σ) where
  published := .refl _
  received := rfl
  attempt _ ha := nomatch ha
  phase := .unloaded rfl rfl rfl rfl rfl

/-- The phase depends on the attempt only while its session is being shown. -/
theorem Phase.attend (h : Phase engine o) {o' : Office σ}
    (active : o'.controller.active = o.controller.active)
    (keeps : ∀ m, o.room.made? = some m → o'.room.made? = some m)
    (service : o'.service = o.service) (queue : o'.queue = o.queue)
    (obtained : o'.obtained = o.obtained) (dealings : o'.dealings = o.dealings) :
    Phase engine o' := by
  have hcommands : o'.commands = o.commands := congrArg (List.map Prod.snd) obtained
  cases h with
  | unloaded hactive hservice hqueue hobtained hdealings =>
    exact .unloaded (active.trans hactive) (service.trans hservice) (queue.trans hqueue)
      (obtained.trans hobtained) (dealings.trans hdealings)
  | opening a first hold hactive hservice hmade hleft hqueue hobtained hdue hdealings =>
    exact .opening a first hold (active.trans hactive) (service.trans hservice) (keeps _ hmade)
      hleft (queue.trans hqueue) (obtained.trans hobtained) hdue (dealings ▸ hdealings)
  | free a first hactive hservice hmade hsession hdealings =>
    exact .free a first (active.trans hactive) (service.trans hservice) hmade
      (hcommands ▸ hsession) (by rw [dealings, hcommands, hdealings])
  | held a first caller command hold before hactive hservice hmade hobtained hsession hleft hdue
      hdealings =>
    exact .held a first caller command hold before (active.trans hactive)
      (service.trans hservice) hmade (obtained.trans hobtained) hsession (hcommands ▸ hleft) hdue
      (by rw [dealings, hcommands, hdealings])

omit [Session σ] in
theorem dealings_note_pushed (o : Office σ) (views : List View) :
    (o.note (views.map .pushed)).dealings = o.dealings := by
  rw [dealings, note, List.filter_append, Note.filter_map_pushed, List.append_nil]
  rfl

/-- Something happens among those who load, and publishes some views. -/
theorem Dealing.attend (h : Dealing engine o) {l : Lobby σ} {views : List View}
    (hl : Room.Attends engine o.room l.room views) :
    Dealing engine ({ o with lobby := l }.note (views.map .pushed)) where
  published := by
    rw [note, List.filterMap_append, Note.filterMap_view?_map_pushed]
    exact h.published.trans hl.publishes
  received := by
    rw [note, List.filterMap_append, Note.filterMap_call?_map_pushed, List.append_nil]
    exact hl.received.trans h.received
  attempt := by
    intro a' ha'
    have hactive : l.room.controller.active = o.controller.active := hl.active
    rcases hl.attempt a' ha' with ⟨a, ha, hgate, hresource, hrest⟩ | ⟨hnone, hrest⟩
    · obtain ⟨hnone, hmade⟩ := h.attempt a ha
      refine ⟨hactive.trans hnone, ?_⟩
      rw [hrest, hgate, hresource, hmade]
    · exact ⟨hactive.trans hnone, congrArg (·.outcome.2) hrest⟩
  phase := by
    refine h.phase.attend hl.active ?_ rfl rfl rfl (dealings_note_pushed _ views)
    intro m hm
    exact (Room.made?_congr (hl.keeps m hm)).trans hm

theorem Dealing.push (h : Dealing engine o) (gate : GateId) (v : View) :
    Dealing engine ((o.withController (o.controller.push gate v)).note
      ((o.controller.board.letThrough gate v).map .pushed)) where
  published := by
    rw [note, List.filterMap_append, Note.filterMap_view?_map_pushed]
    exact h.published.trans (Board.publishes_offer _ gate v)
  received := by
    rw [note, List.filterMap_append, Note.filterMap_call?_map_pushed, List.append_nil]
    exact h.received
  attempt := h.attempt
  phase := h.phase.attend rfl (fun _ hm => hm) rfl rfl rfl (dealings_note_pushed _ _)

theorem Dealing.comeInput (h : Dealing engine o) (command : Command) :
    Dealing engine (o.comeInput command) := by
  rw [Office.comeInput]
  split
  · rename_i hl
    refine ⟨h.published, h.received, h.attempt, ?_⟩
    have hloaded (hnone : o.controller.active = none) : False := by
      rw [Controller.isLoaded, hnone] at hl
      cases hl
    cases h.phase with
    | unloaded active => exact (hloaded active).elim
    | opening a first hold active => exact (hloaded active).elim
    | free a first active service made session dealings =>
      exact .free a first active service made session dealings
    | held a first caller command hold before active service made obtained session left due
        dealings =>
      exact .held a first caller command hold before active service made obtained session left due
        dealings
  · exact ⟨h.published, h.received, h.attempt,
      h.phase.attend rfl (fun _ hm => hm) rfl rfl rfl rfl⟩

theorem Dealing.establish (h : Dealing engine o) {a : Attempt σ} {session : σ}
    (hm : o.room.made? = some (a, session)) (hs : o.service = none) :
    Dealing engine (o.establish a session) := by
  obtain ⟨hrunning, -⟩ := Room.made?_eq_some hm
  rw [Office.establish, hs]
  cases h.phase with
  | opening a first hold active service => cases hs.symm.trans service
  | held a first caller command hold before active service => cases hs.symm.trans service
  | free b first active => cases (h.attempt a hrunning).1.symm.trans active
  | unloaded active service queue obtained dealings =>
    refine ⟨?_, ?_, h.attempt, ?_⟩
    · rw [List.filterMap_append, Note.filterMap_view?_map_pushed]
      exact h.published.trans (Board.publishes_arm_held? _ _)
    · rw [List.filterMap_append, Note.filterMap_call?_map_pushed, List.append_nil]
      exact h.received
    · have hdealings : (o.notes ++
          (o.controller.board.held? a.gate).toList.map Note.pushed).filter Note.isDealing = [] := by
        rw [List.filter_append, Note.filter_map_pushed, List.append_nil]
        exact dealings
      refine .opening a session _ active rfl hm rfl queue obtained (List.suffix_refl _) ?_
      show (o.notes ++ _).filter _ ++ _ = _
      rw [hdealings]
      rfl

theorem Dealing.obtain (h : Dealing engine o) (caller : CallerId) :
    Dealing engine (o.obtain caller) := by
  rw [Office.obtain]
  split
  · rename_i a p hs ha hp
    refine ⟨h.published, h.received, h.attempt, ?_⟩
    cases h.phase with
    | unloaded active => cases ha.symm.trans active
    | opening b first hold active => cases ha.symm.trans active
    | held b first caller command hold before active service => cases hs.symm.trans service
    | free b first active service made session dealings =>
      cases ha.symm.trans active
      have hcommands : (o.obtained ++ [p]).map Prod.snd = o.commands ++ [p.2] := List.map_append
      refine .held a first p.1 p.2 _ o.obtained ha rfl made rfl rfl ?_ ?_ ?_
      · show (Session.evaluate a.session p.2).1 = Session.after first ((o.obtained ++ [p]).map _)
        rw [hcommands, Session.after_concat, session]
      · show Session.servicing a.session p.2 <:+ _
        rw [session]
        exact List.suffix_refl _
      · show o.dealings ++ Session.servicing a.session p.2 =
          (Session.blocks first ((o.obtained ++ [p]).map _)).flatten
        rw [hcommands, Session.blocks_concat, List.flatten_concat, dealings, session]
  · exact h

/-- A step moves what is due to what has been done, so that both together stay the same. -/
theorem dealings_goOn (o : Office σ) (s : Service σ) :
    (o.goOn s).dealings ++ (o.controller.serve s.hold).hold.due = o.dealings ++ s.hold.due := by
  have hdue : (o.controller.serve s.hold).notes.filter Note.isDealing ++
      (o.controller.serve s.hold).hold.due = s.hold.due := Controller.dealings_serve _ _
  rw [← hdue, ← List.append_assoc, dealings, goOn, List.filter_append]
  rfl

/-- The one who holds the session takes a step. -/
theorem Dealing.goOn (h : Dealing engine o) {s : Service σ} (hs : o.service = some s) :
    Dealing engine (o.goOn s) := by
  have hsuffix : (o.controller.serve s.hold).hold.due <:+ s.hold.due :=
    ⟨_, Controller.dealings_serve _ _⟩
  have hleft := Controller.left_serve o.controller s.hold
  have hdealings := dealings_goOn o s
  refine ⟨?_, ?_, ?_, ?_⟩
  · rw [Office.goOn, List.filterMap_append]
    exact h.published.trans (Controller.publishes_serve _ _)
  · rw [Office.goOn, List.filterMap_append, List.reverse_append, ← h.received]
    exact Controller.received_serve _ _
  · intro a ha
    obtain ⟨hactive, hmade⟩ := h.attempt a ha
    exact ⟨Controller.active_serve_of_none hactive, hmade⟩
  · cases h.phase with
    | unloaded active service => cases hs.symm.trans service
    | free b first active service => cases hs.symm.trans service
    | opening a first hold active service made left queue obtained due dealings =>
      cases hs.symm.trans service
      exact .opening a first _ (Controller.active_serve_of_none active) rfl made
        (hleft.trans left) queue obtained (hsuffix.trans due) (hdealings.trans dealings)
    | held a first caller command hold before active service made obtained session left due
        dealings =>
      cases hs.symm.trans service
      exact .held { a with session := (o.controller.serve hold).hold.session } first caller command
        _ before (Controller.active_serve_of_some active session) rfl made obtained rfl
        (hleft.trans left) (hsuffix.trans due) (hdealings.trans dealings)

/-- The one who holds the session has done what is due and lets it go. -/
theorem Dealing.release (h : Dealing engine o) {s : Service σ} (hs : o.service = some s)
    (hfinished : s.hold.progress = .finished) : Dealing engine (o.release s) := by
  have hdue : s.hold.due = [] := by rw [Hold.due, hfinished]
  have hleft : s.hold.left = s.hold.session := by rw [Hold.left, hfinished]
  cases h.phase with
  | unloaded active service => cases hs.symm.trans service
  | free b first active service => cases hs.symm.trans service
  | opening a first hold active service made left queue obtained due dealings =>
    cases hs.symm.trans service
    obtain ⟨hrunning, hrest⟩ := Room.made?_eq_some made
    obtain ⟨-, hmade⟩ := h.attempt a hrunning
    rw [hrest] at hmade
    rw [Office.release]
    simp only [hrunning]
    have hcommands : o.commands = [] := congrArg (List.map Prod.snd) obtained
    refine ⟨h.published, h.received, ?_, ?_⟩
    · intro a ha
      cases ha
    refine .free _ first rfl rfl hmade.symm ?_ ?_
    · show hold.session = Session.after first o.commands
      rw [hcommands]
      exact hleft.symm.trans left
    · rw [hdue, List.append_nil] at dealings
      show o.dealings = (Session.blocks first o.commands).flatten
      rw [hcommands, dealings]
      exact (List.append_nil _).symm
  | held a first caller command hold before active service made obtained session left due
      dealings =>
    cases hs.symm.trans service
    rw [Office.release]
    refine ⟨h.published, h.received, h.attempt, ?_⟩
    refine .free a first active rfl made ?_ ?_
    · exact session.trans (hleft.symm.trans left)
    · rw [hdue, List.append_nil] at dealings
      exact dealings

/-- **Every event** keeps to what is due. -/
theorem Dealing.happens (h : Dealing engine o) {o' : Office σ} (hs : Happens engine o o') :
    Dealing engine o' := by
  cases hs with
  | idle => exact h
  | attend attends => exact h.attend attends
  | come command => exact h.comeInput command
  | establish made free => exact h.establish made free
  | obtain caller => exact h.obtain caller
  | goOn service => exact h.goOn service
  | release service finished => exact h.release service finished
  | push gate v => exact h.push gate v

theorem dealing_run (engine : Engine σ) (events : List Event) :
    Dealing engine (run engine events) := by
  have hrun : ∀ o : Office σ, Dealing engine o →
      Dealing engine (events.foldl (happen engine) o) := by
    induction events with
    | nil => exact fun _ h => h
    | cons e rest ih => exact fun o h => ih _ (h.happens (happens_happen engine o e))
  exact hrun empty (dealing_empty engine)

end Office

end StoryPlayer
