import StoryPlayer.Engine.Rehearsal
import StoryPlayer.Proofs.Controller.Courses

/-!
# One session, whoever asks for it

Callers come at any time and in any number, for stories or with commands. A caller who wants a story
first looks for a session, and only later, after any number of other things, asks for its turn. The
engine is arbitrary: attempts wait for as long as they like and fail or succeed as they like.

* `Lobby.orderly_happen`: one event keeps callers, attempts and answers in order.
* `Lobby.courses_happen`: one event keeps attempts true to the courses of the engine.
* `Lobby.singleLoad_run`: every run.
* `Lobby.answered_callAll`: callers who all come at the start are all answered.
-/

namespace StoryPlayer

/-! ## Callers who come and go -/

/-- A room with the callers who are not in it yet. -/
structure Lobby (σ : Type) where
  room : Room σ
  /-- The requests of all callers so far. The number of a caller is its place here. -/
  requests : List Request
  /-- Those who have looked for a session in vain and have yet to ask for their turn. -/
  checked : List (CallerId × String)

namespace Lobby

/-- What can happen next. -/
inductive Event where
  /-- A new caller comes: a command is taken at once, and for a story one looks for a session. -/
  | come (request : Request)
  /-- A caller who has found no session asks for its turn. -/
  | ask (caller : CallerId)
  /-- The attempt under way takes a step, or the first who waits has its turn. -/
  | step

variable {σ : Type} [Session σ] {l : Lobby σ} {p : CallerId × String}

/-- The lobby of a controller that is new. -/
def empty : Lobby σ := ⟨.ofController .fresh, [], []⟩

def happen (engine : Engine σ) (l : Lobby σ) : Event → Lobby σ
  | .come (.input command) =>
    { l with
      requests := l.requests ++ [.input command]
      room := l.room.enter engine l.requests.length (.input command) }
  | .come (.load resource) =>
    let caller := l.requests.length
    let l : Lobby σ := { l with requests := l.requests ++ [Request.load resource] }
    if l.room.controller.isLoaded then
      { l with room := l.room.answer caller (.loaded (.ok .alreadyActive)) }
    else { l with checked := l.checked ++ [(caller, resource)] }
  | .ask caller =>
    match l.checked.find? (·.1 = caller) with
    | none => l
    | some p =>
      { l with
        checked := l.checked.erase p
        room := l.room.enter engine p.1 (.load p.2) }
  | .step => { l with room := l.room.step engine }

/-- What has become of a lobby after some events. -/
def run (engine : Engine σ) (events : List Event) : Lobby σ := events.foldl (happen engine) empty

def outline (l : Lobby σ) : Outline where
  requests := l.requests
  idle := l.checked ++ l.room.waiting
  running := l.room.running.map fun a => (a.caller, a.resource)
  answers := l.room.answers
  history := l.room.history
  resource? := l.room.controller.resource?
  attempts := l.room.controller.attempts

/-! ## One event -/

omit [Session σ] in
theorem isLoaded_of_resource? (h : l.room.controller.isLoaded = true) :
    l.outline.resource?.isSome := by
  rw [Controller.isLoaded_eq] at h
  exact h

omit [Session σ] in
theorem resource?_of_not_isLoaded (h : ¬ l.room.controller.isLoaded = true) :
    l.outline.resource? = none := by
  rw [Controller.isLoaded_eq, Option.not_isSome_iff_eq_none] at h
  exact h

omit [Session σ] in
/-- Nobody is busy: there is neither an attempt under way nor anyone who waits. -/
theorem orderly_begin (engine : Engine σ)
    (h : Outline.Orderly { l.outline with idle := p :: l.outline.idle })
    (hr : l.room.running = none) (hl : ¬ l.room.controller.isLoaded = true) :
    (outline { l with room := l.room.begin engine p.1 p.2 }).Orderly := by
  have hrunning : l.outline.running = none := by
    rw [outline, hr]
    rfl
  have hstart := h.start hrunning (resource?_of_not_isLoaded hl)
  rw [show l.outline.attempts = l.room.controller.attempts from rfl,
    ← Controller.attempts_openAttempt] at hstart
  exact hstart

omit [Session σ] in
/-- A caller asks for its turn: it is dismissed, has to wait, or begins an attempt. -/
theorem orderly_enters {engine : Engine σ} {r' : Room σ}
    (h : Outline.Orderly { l.outline with idle := p :: l.outline.idle })
    (he : l.room.Enters engine p.1 p.2 r') : (outline { l with room := r' }).Orderly := by
  cases he with
  | dismissed loaded => exact h.dismiss (isLoaded_of_resource? loaded)
  | waits =>
    have hperm : (p :: l.outline.idle).Perm (l.checked ++ (l.room.waiting ++ [p])) := by
      rw [← List.append_assoc]
      exact (List.perm_append_singleton p _).symm
    exact h.perm hperm
  | begins unloaded running => exact orderly_begin engine h running unloaded

/-- The attempt under way comes to its end. -/
theorem orderly_finish (h : l.outline.Orderly) {a : Attempt σ} (hr : l.room.running = some a)
    (result : Except LoadError σ) :
    (outline { l with room := l.room.finish a result }).Orderly := by
  obtain ⟨hattempts, hresource, hanswer⟩ :=
    Controller.conclude_frame l.room.controller a.gate a.resource result
  have hrunning : l.outline.running = some (a.caller, a.resource) := by
    rw [outline, hr]
    rfl
  have hfinish := h.finish hrunning (result.map fun _ => ())
  cases result with
  | error e => simpa [outline, Room.finish, Room.answer, hattempts, hresource, hanswer,
      Except.map] using hfinish
  | ok session => simpa [outline, Room.finish, Room.answer, hattempts, hresource, hanswer,
      Except.map] using hfinish

/-- Something happens among those who load. -/
theorem orderly_steps {engine : Engine σ} {r' : Room σ} (h : l.outline.Orderly)
    (hs : l.room.Steps engine r') : (outline { l with room := r' }).Orderly := by
  have hidle {p : CallerId × String} {waiting : List (CallerId × String)}
      (hw : l.room.waiting = p :: waiting) :
      Outline.Orderly { l.outline with idle := p :: (l.checked ++ waiting) } := by
    refine h.perm ?_
    rw [outline, hw]
    exact List.perm_middle
  cases hs with
  | idle => exact h
  | push running => simpa [outline, running] using h
  | suspend running => simpa [outline, running] using h
  | finish running => exact orderly_finish h running _
  | dismiss running first loaded => exact (hidle first).dismiss (isLoaded_of_resource? loaded)
  | @begin caller resource waiting running first unloaded =>
    exact orderly_begin (l := { l with room := { l.room with waiting } }) engine (hidle first) running
      unloaded

/-- **Every event** keeps the outline orderly. -/
theorem orderly_happen (engine : Engine σ) (h : l.outline.Orderly) (event : Event) :
    (l.happen engine event).outline.Orderly := by
  cases event with
  | step => exact orderly_steps h (Room.steps_step engine l.room)
  | ask caller =>
    rw [happen]
    cases hf : l.checked.find? (·.1 = caller) with
    | none => exact h
    | some p =>
      have hperm : l.outline.idle.Perm (p :: (l.checked.erase p ++ l.room.waiting)) :=
        (List.perm_cons_erase (List.mem_of_find?_eq_some hf)).append_right l.room.waiting
      exact orderly_enters (l := { l with checked := l.checked.erase p }) (h.perm hperm)
        (Room.enters_enter engine l.room p.1 p.2)
  | come request =>
    cases request with
    | input command =>
      obtain ⟨hattempts, hresource, -⟩ := Controller.handle_frame l.room.controller command
      have hcommand := h.command command (l.room.controller.handle command).2
      simpa [happen, Room.enter, Room.answer, outline, hattempts, hresource] using hcommand
    | load resource =>
      have harrive := h.arrive resource
      by_cases hl : l.room.controller.isLoaded = true
      · rw [happen, if_pos hl]
        exact (harrive.perm (List.perm_append_singleton _ _)).dismiss (isLoaded_of_resource? hl)
      · rw [happen, if_neg hl]
        refine harrive.perm ?_
        simp only [outline, List.append_assoc]
        exact List.Perm.append_left _ List.perm_append_comm

theorem orderly_run (engine : Engine σ) (events : List Event) :
    (run engine events).outline.Orderly := by
  have hrun : ∀ l : Lobby σ, l.outline.Orderly →
      (events.foldl (happen engine) l).outline.Orderly := by
    induction events with
    | nil => exact fun _ h => h
    | cons event rest ih => exact fun _ h => ih _ (orderly_happen engine h event)
  exact hrun empty Outline.orderly_empty

/-! ## The courses of the engine -/

/-- **Every event** keeps what is noted of attempts true of the engine. -/
theorem courses_happen {engine : Engine σ} (h : l.room.Courses engine) (event : Event) :
    (l.happen engine event).room.Courses engine := by
  cases event with
  | step => exact h.steps (Room.steps_step engine l.room)
  | ask caller =>
    rw [happen]
    cases l.checked.find? (·.1 = caller) with
    | none => exact h
    | some p => exact h.enters (Room.enters_enter engine l.room p.1 p.2)
  | come request =>
    cases request with
    | input command => exact (h.handle command).of_eq rfl rfl rfl
    | load resource =>
      rw [happen]
      split
      · exact h.of_eq rfl rfl rfl
      · exact h

theorem courses_run (engine : Engine σ) (events : List Event) :
    (run engine events).room.Courses engine := by
  have hrun : ∀ l : Lobby σ, l.room.Courses engine →
      (events.foldl (happen engine) l).room.Courses engine := by
    induction events with
    | nil => exact fun _ h => h
    | cons event rest ih => exact fun _ h => ih _ (courses_happen h event)
  exact hrun empty (Room.courses_ofController engine)

/-! ## Every run -/

open Milestone (beginnings endings results)

/-- One session of this engine, whoever asks for it. -/
structure SingleLoad (engine : Engine σ) (l : Lobby σ) : Prop where
  /-- At every moment at most one attempt is in flight. -/
  neverTwo : ∀ past, past <+: l.room.history →
    (beginnings past).length ≤ (endings past).length + 1
  /-- Every call of the engine is an attempt of a caller. -/
  attempts : l.room.controller.attempts = (beginnings l.room.history).length
  /-- Attempts end in the order in which they begin, and the one in flight is the last. -/
  inOrder : beginnings l.room.history =
    endings l.room.history ++ (l.room.running.map fun a => (a.caller, a.resource)).toList
  /-- An attempt is the call of the engine with its number and its story. Either the course of that
  call is over, and the attempt has ended as the course does, or the rest of it is still to come. -/
  calls : ∀ k caller id, (beginnings l.room.history)[k]? = some (caller, id) →
    (results l.room.history)[k]? =
        some (caller, id, (engine.start k id).outcome.2.map fun _ => ()) ∨
      ∃ a ∈ l.room.running, a.caller = caller ∧ a.resource = id ∧ a.gate = k ∧
        (engine.start k id).LeadsTo a.rest
  /-- Nothing else ends. -/
  ended : ∀ k caller id result, (results l.room.history)[k]? = some (caller, id, result) →
    (beginnings l.room.history)[k]? = some (caller, id) ∧
      result = (engine.start k id).outcome.2.map fun _ => ()
  /-- No caller makes two attempts. -/
  once : ((beginnings l.room.history).map Prod.fst).Nodup
  /-- A caller makes its attempt for the story that it came for. -/
  own : ∀ caller id, .began caller id ∈ l.room.history → l.requests[caller]? = some (.load id)
  /-- After an attempt has succeeded, no attempt begins or ends. -/
  last : ∀ past caller id later,
    l.room.history = past ++ .ended caller id (.ok ()) :: later → later = []
  /-- No caller is answered twice. -/
  answeredOnce : (l.room.answers.map Prod.fst).Nodup
  /-- A caller is told of a start if its own call of the engine has ended with a session, -/
  started : ∀ caller, (caller, .loaded (.ok .started)) ∈ l.room.answers ↔
    ∃ k id session, (endings l.room.history)[k]? = some (caller, id) ∧
      (engine.start k id).outcome.2 = .ok session
  /-- and of an error if its own call has ended with it. -/
  failed : ∀ caller e, (caller, .loaded (.error e)) ∈ l.room.answers ↔
    ∃ k id, (endings l.room.history)[k]? = some (caller, id) ∧
      (engine.start k id).outcome.2 = .error e
  /-- Of those who came for a story and have been answered, the others made no attempt. -/
  alreadyActive : ∀ caller, (caller, .loaded (.ok .alreadyActive)) ∈ l.room.answers ↔
    (∃ id, l.requests[caller]? = some (.load id)) ∧
      (∃ answer, (caller, answer) ∈ l.room.answers) ∧ ∀ id, .began caller id ∉ l.room.history
  alreadyLoaded : ∀ caller, (caller, .loaded (.ok .alreadyActive)) ∈ l.room.answers →
    l.room.controller.isLoaded
  /-- The story that is loaded is the one of the attempt that succeeded. -/
  resource : ∀ id, l.room.controller.resource? = some id ↔
    ∃ caller, .ended caller id (.ok ()) ∈ l.room.history
  /-- The session is there because the engine has made one for that story. -/
  stored : ∀ a ∈ l.room.controller.active, ∃ caller session,
    (endings l.room.history)[a.gate]? = some (caller, a.resource) ∧
      (engine.start a.gate a.resource).outcome.2 = .ok session
  /-- Everybody has been answered or is still there. -/
  present : ∀ caller < l.requests.length, (∃ answer, (caller, answer) ∈ l.room.answers) ∨
    (∃ id, (caller, id) ∈ l.checked ∨ (caller, id) ∈ l.room.waiting) ∨
      ∃ a ∈ l.room.running, a.caller = caller

omit [Session σ] in
theorem present_of_orderly (h : l.outline.Orderly) {caller : CallerId}
    (hc : caller < l.requests.length) : (∃ answer, (caller, answer) ∈ l.room.answers) ∨
      (∃ id, (caller, id) ∈ l.checked ∨ (caller, id) ∈ l.room.waiting) ∨
        ∃ a ∈ l.room.running, a.caller = caller := by
  have hmem := h.places.symm.subset (List.mem_range.mpr hc)
  rcases List.mem_append.mp hmem with hmem | hidle
  · rcases List.mem_append.mp hmem with hanswer | hrun
    · obtain ⟨⟨c, answer⟩, ha, rfl⟩ := List.mem_map.mp hanswer
      exact .inl ⟨answer, ha⟩
    · obtain ⟨q, hq, rfl⟩ := List.mem_map.mp hrun
      obtain ⟨a, ha, rfl⟩ := Option.map_eq_some_iff.mp (Option.mem_toList.mp hq)
      exact .inr (.inr ⟨a, ha, rfl⟩)
  · obtain ⟨⟨c, id⟩, hq, rfl⟩ := List.mem_map.mp hidle
    exact .inr (.inl ⟨id, List.mem_append.mp hq⟩)

omit [Session σ] in
theorem singleLoad_of_orderly {engine : Engine σ} (h : l.outline.Orderly)
    (hc : l.room.Courses engine) : SingleLoad engine l where
  neverTwo := h.neverTwo
  attempts := h.attempts_eq
  inOrder := hc.inOrder
  calls := fun _ _ _ => hc.call
  ended := fun _ _ _ _ hk => ⟨hc.begun hk, hc.ended _ _ _ _ hk⟩
  once := h.begunOnce
  own := fun caller id hm => h.begunOwn (caller, id) (Milestone.mem_beginnings.mpr hm)
  last := fun _ _ _ _ hh => h.toLedger.eq_nil_of_success hh
  answeredOnce := by
    have hnodup := h.places.nodup_iff.mpr List.nodup_range
    rw [List.append_assoc] at hnodup
    exact hnodup.of_append_left
  started := fun caller => (h.mem_answers_started_iff caller).trans hc.exists_succeeded_iff
  failed := fun caller _ => (h.mem_answers_error_iff caller _).trans hc.exists_failed_iff
  alreadyActive := h.mem_answers_alreadyActive_iff
  alreadyLoaded := by
    intro caller ha
    rw [Controller.isLoaded_eq]
    exact (h.justified _ ha).1
  resource := h.toLedger.eq_some_iff
  stored := hc.stored
  present := fun _ hc => present_of_orderly h hc

/-- **One session, whoever asks for it.** Whatever the engine does, and in whatever order callers
come, ask for their turns and are served: at every moment at most one call of the engine is in
flight, no caller makes two, each is made for the story of its caller, and none begins after one has
succeeded. A caller is told of a start if its own call has ended with a session, of an error if its
own call has ended with it, and of a session that was there already if it made no call, and then
there is one. The story that is loaded is the one of the call that succeeded. Commands are taken just
when a story is loaded. -/
theorem singleLoad_run (engine : Engine σ) (events : List Event) :
    SingleLoad engine (run engine events) ∧
      ∀ command, (run engine (events ++ [.come (.input command)])).room.answers =
        (run engine events).room.answers ++ [((run engine events).requests.length,
          .handled (if (run engine events).room.controller.isLoaded then .evaluated
            else .ignored))] := by
  refine ⟨singleLoad_of_orderly (orderly_run engine events) (courses_run engine events),
    fun command => ?_⟩
  obtain ⟨-, -, hanswer⟩ :=
    Controller.handle_frame (run engine events).room.controller command
  rw [run, List.foldl_append, ← hanswer]
  rfl

/-! ### Three callers -/

/-- Each call waits for a turn, and the first one fails. -/
def failsOnce : Engine RehearsedSession :=
  Rehearsal.engine ⟨.push, 1, [⟨[], some "no", ⟨[], []⟩⟩, .plain], []⟩

/-- The second and the third of three callers wait while the first one loads. -/
def threeCallers : List Event :=
  [.come (.load "a"), .come (.load "b"), .come (.load "c"), .ask 0, .ask 2, .ask 1,
    .step, .step, .step, .step, .step, .step]

/-- The first call fails and its caller is told so. The caller who waits makes the second one, which
succeeds, and the last caller makes none. -/
theorem singleLoad_run_of_three_callers :
    SingleLoad failsOnce (run failsOnce threeCallers) ∧
    (run failsOnce threeCallers).room.answers =
      [(0, .loaded (.error (.engine "no (a)"))), (2, .loaded (.ok .started)),
        (1, .loaded (.ok .alreadyActive))] ∧
    (run failsOnce threeCallers).room.history =
      [.began 0 "a", .ended 0 "a" (.error (.engine "no (a)")), .began 2 "c",
        .ended 2 "c" (.ok ())] ∧
    (failsOnce.start 0 "a").outcome.2 = .error (.engine "no (a)") ∧
    (∃ session, (failsOnce.start 1 "c").outcome.2 = .ok session) ∧
    (run failsOnce threeCallers).room.controller.resource? = some "c" :=
  ⟨(singleLoad_run failsOnce threeCallers).1, rfl, rfl, rfl, ⟨_, rfl⟩, rfl⟩

/-! ## Callers who all come at the start -/

/-- What one lobby can become. -/
def Reaches (engine : Engine σ) (l l' : Lobby σ) : Prop :=
  ∃ events : List Event, events.foldl (happen engine) l = l'

theorem Reaches.refl (engine : Engine σ) (l : Lobby σ) : Reaches engine l l := ⟨[], rfl⟩

theorem Reaches.trans {engine : Engine σ} {l l' l'' : Lobby σ} (h : Reaches engine l l')
    (h' : Reaches engine l' l'') : Reaches engine l l'' := by
  obtain ⟨events, rfl⟩ := h
  obtain ⟨later, rfl⟩ := h'
  exact ⟨events ++ later, List.foldl_append⟩

theorem reaches_step (engine : Engine σ) (r : Room σ) (requests : List Request) :
    Reaches engine ⟨r, requests, []⟩ ⟨r.step engine, requests, []⟩ := ⟨[.step], rfl⟩

theorem reaches_enter (engine : Engine σ) (r : Room σ) (requests : List Request)
    (request : Request) :
    Reaches engine ⟨r, requests, []⟩
      ⟨r.enter engine requests.length request, requests ++ [request], []⟩ := by
  cases request with
  | input command => exact ⟨[.come (.input command)], rfl⟩
  | load resource =>
    by_cases hl : r.controller.isLoaded = true
    · refine ⟨[.come (.load resource)], ?_⟩
      rw [List.foldl_cons, happen, if_pos hl, Room.enter, if_pos hl]
      rfl
    · refine ⟨[.come (.load resource), .ask requests.length], ?_⟩
      rw [List.foldl_cons, happen, if_neg hl]
      simp [happen]

theorem reaches_poll (engine : Engine σ) (r : Room σ) (requests : List Request) :
    Reaches engine ⟨r, requests, []⟩ ⟨r.poll engine, requests, []⟩ := by
  induction r using Room.poll.induct engine with
  | case1 r hr =>
    rw [Room.poll]
    split
    · exact .refl engine _
    · rename_i a ha
      rw [hr] at ha
      cases ha
  | case2 r a hr next ha =>
    have hpoll : r.poll engine = r.step engine := by
      rw [Room.poll]
      split
      · rename_i hnone
        rw [hr] at hnone
        cases hnone
      · rename_i b hb
        rw [hr] at hb
        cases hb
        rw [ha]
    rw [hpoll]
    exact reaches_step engine r requests
  | case3 r a hr ha ih =>
    have hpoll : r.poll engine = (r.step engine).poll engine := by
      rw [Room.poll]
      split
      · rename_i hnone
        rw [hr] at hnone
        cases hnone
      · rename_i b hb
        rw [hr] at hb
        cases hb
        split
        · rename_i next hnext
          exact absurd hnext (ha next)
        · rfl
    rw [hpoll]
    exact (reaches_step engine r requests).trans ih

theorem reaches_settle (engine : Engine σ) (r : Room σ) (requests : List Request) :
    Reaches engine ⟨r, requests, []⟩ ⟨r.settle engine, requests, []⟩ ∧
      (r.settle engine).running = none ∧ (r.settle engine).waiting = [] := by
  induction r using Room.settle.induct engine with
  | case1 r hr hw =>
    have hsettle : r.settle engine = r := by
      rw [Room.settle]
      split <;> simp_all
    rw [hsettle]
    exact ⟨.refl engine _, hr, hw⟩
  | case2 r hr w ws hw ih =>
    have hsettle : r.settle engine = (r.step engine).settle engine := by
      rw [Room.settle]
      split <;> simp_all
    rw [hsettle]
    exact ⟨(reaches_step engine r requests).trans ih.1, ih.2⟩
  | case3 r a hr ih =>
    have hsettle : r.settle engine = (r.step engine).settle engine := by
      rw [Room.settle]
      split <;> simp_all
    rw [hsettle]
    exact ⟨(reaches_step engine r requests).trans ih.1, ih.2⟩

theorem reaches_call (engine : Engine σ) (r : Room σ) (requests : List Request)
    (request : Request) :
    Reaches engine ⟨r, requests, []⟩
      ⟨r.call engine requests.length request, requests ++ [request], []⟩ := by
  have henter := reaches_enter engine r requests request
  rw [Room.call]
  split
  · exact henter
  · exact henter.trans (reaches_poll engine _ _)

theorem reaches_foldl_call (engine : Engine σ) (r : Room σ) (before requests : List Request) :
    Reaches engine ⟨r, before, []⟩
      ⟨(requests.zipIdx before.length).foldl
        (fun r (request, caller) => r.call engine caller request) r, before ++ requests, []⟩ := by
  induction requests generalizing r before with
  | nil =>
    rw [List.append_nil]
    exact .refl engine _
  | cons request rest ih =>
    have hrest := ih (r.call engine before.length request) (before ++ [request])
    rw [List.length_append, List.append_assoc] at hrest
    exact (reaches_call engine r before request).trans hrest

theorem reaches_callAll (engine : Engine σ) (requests : List Request) :
    Reaches engine empty ⟨(Room.ofController .fresh).callAll engine requests, requests, []⟩ :=
  (reaches_foldl_call engine (.ofController .fresh) [] requests).trans
    (reaches_settle engine _ requests).1

/-- **Everybody is answered** when all have come one after another and the room has settled. -/
theorem answered_callAll (engine : Engine σ) (requests : List Request) {caller : CallerId}
    (hc : caller < requests.length) : ∃ answer,
      (caller, answer) ∈ ((Room.ofController .fresh).callAll engine requests).answers := by
  obtain ⟨events, hrun⟩ := reaches_callAll engine requests
  have horderly := orderly_run engine events
  rw [run, hrun] at horderly
  obtain ⟨-, hrunning, hwaiting⟩ := reaches_settle engine
    (requests.zipIdx.foldl (fun r (request, caller) => r.call engine caller request)
      (Room.ofController .fresh)) requests
  rcases present_of_orderly horderly hc with hanswer | ⟨id, hchecked | hwait⟩ | ⟨a, ha, -⟩
  · exact hanswer
  · cases hchecked
  · rw [Room.callAll, hwaiting] at hwait
    cases hwait
  · rw [Room.callAll, hrunning] at ha
    cases ha

end Lobby

end StoryPlayer
