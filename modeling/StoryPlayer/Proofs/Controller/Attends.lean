import StoryPlayer.Proofs.Controller.Service
import StoryPlayer.Proofs.Controller.Roll
import StoryPlayer.Proofs.Controller.SingleLoad

/-!
# What those who load do to the others

Whatever happens among the callers who load, up to the moment when an attempt has made a session,
leaves the session of the controller and the callers with commands alone.

* `Room.Attends`: what such an event leaves as it is, and what it may change.
* `Room.attends_steps`, `Lobby.attends_happen`: the events.
-/

namespace StoryPlayer

namespace Room

variable {σ : Type}

/-- The callers whose commands have come to this, in the order of the answers. -/
def handled (r : Room σ) (outcome : InputOutcome) : List CallerId :=
  r.answers.filterMap fun
    | (caller, .handled o) => if o = outcome then some caller else none
    | (_, .loaded _) => none

/-- The views that the attempt under way publishes with its next step. -/
def shown (r : Room σ) : List View :=
  match r.running with
  | some ⟨_, _, gate, .push v _⟩ => r.controller.board.letThrough gate v
  | _ => []

/-- The session that the attempt under way has made. -/
def made? (r : Room σ) : Option (Attempt σ × σ) :=
  match r.running with
  | some ⟨caller, resource, gate, .ready session⟩ =>
    some (⟨caller, resource, gate, .ready session⟩, session)
  | _ => none

end Room

/-- Among those who load something happens that leaves the session and the callers with commands
alone, and publishes these views. -/
structure Room.Attends {σ : Type} (engine : Engine σ) (r r' : Room σ) (views : List View) :
    Prop where
  active : r'.controller.active = r.controller.active
  received : r'.controller.received = r.controller.received
  publishes : r.controller.board.Publishes views r'.controller.board
  /-- An attempt that has made a session goes no further. -/
  keeps : ∀ m, r.made? = some m → r'.running = r.running
  attempt : ∀ a' ∈ r'.running,
    (∃ a ∈ r.running, a'.gate = a.gate ∧ a'.resource = a.resource ∧
      a'.rest.outcome.2 = a.rest.outcome.2) ∨
    r.controller.active = none ∧ a'.rest = engine.start a'.gate a'.resource
  handled : ∀ outcome, r'.handled outcome = r.handled outcome

namespace Room

variable {σ : Type} [Session σ] {engine : Engine σ} {r : Room σ} {a : Attempt σ}

omit [Session σ] in
theorem handled_answer (r : Room σ) (caller : CallerId) (answer : Answer) (outcome : InputOutcome) :
    (r.answer caller answer).handled outcome = r.handled outcome ++
      (match answer with
      | .handled o => if o = outcome then [caller] else []
      | .loaded _ => []) := by
  rw [handled, Room.answer, List.filterMap_append]
  cases answer with
  | loaded result => rfl
  | handled o => by_cases ho : o = outcome <;> simp [ho, handled]

omit [Session σ] in
theorem handled_answer_loaded (r : Room σ) (caller : CallerId)
    (result : Except LoadError LoadOutcome) (outcome : InputOutcome) :
    (r.answer caller (.loaded result)).handled outcome = r.handled outcome := by
  rw [handled_answer]
  exact List.append_nil _

omit [Session σ] in
theorem attends_answer (engine : Engine σ) (r : Room σ) (caller : CallerId)
    (result : Except LoadError LoadOutcome) :
    Attends engine r (r.answer caller (.loaded result)) [] where
  active := rfl
  received := rfl
  publishes := .refl _
  keeps _ _ := rfl
  attempt a ha := .inl ⟨a, ha, rfl, rfl, rfl⟩
  handled := handled_answer_loaded r caller result

omit [Session σ] in
theorem made?_congr {r' : Room σ} (h : r'.running = r.running) : r'.made? = r.made? := by
  rw [made?, made?, h]

omit [Session σ] in
theorem made?_of_none (h : r.running = none) : r.made? = none := by
  rw [made?, h]

omit [Session σ] in
theorem made?_eq_some {session : σ} (h : r.made? = some (a, session)) :
    r.running = some a ∧ a.rest = .ready session := by
  rw [made?] at h
  split at h
  · rename_i hr
    cases h
    exact ⟨hr, rfl⟩
  · cases h

omit [Session σ] in
theorem attends_begin (hr : r.running = none) (ha : r.controller.active = none)
    (caller : CallerId) (resource : String) :
    Attends engine r (r.begin engine caller resource) [] where
  active := rfl
  received := rfl
  publishes := Board.publishes_openGate _
  keeps m hm := by
    rw [made?_of_none hr] at hm
    cases hm
  attempt a' ha' := by
    cases ha'
    exact .inr ⟨ha, rfl⟩
  handled _ := rfl

omit [Session σ] in
theorem active_of_not_isLoaded {c : Controller σ} (h : ¬ c.isLoaded = true) : c.active = none := by
  rw [Controller.isLoaded, Option.not_isSome_iff_eq_none] at h
  exact h

omit [Session σ] in
/-- Who waits does not matter. -/
theorem Attends.of_waiting {waiting : List (CallerId × String)} {r' : Room σ} {views : List View}
    (h : Attends engine { r with waiting } r' views) : Attends engine r r' views :=
  ⟨h.active, h.received, h.publishes, h.keeps, h.attempt, h.handled⟩

omit [Session σ] in
theorem Attends.refl (engine : Engine σ) (r : Room σ) : Attends engine r r [] :=
  ⟨rfl, rfl, .refl _, fun _ _ => rfl, fun a ha => .inl ⟨a, ha, rfl, rfl, rfl⟩, fun _ => rfl⟩

omit [Session σ] in
theorem attends_enters {caller : CallerId} {resource : String} {r' : Room σ}
    (he : r.Enters engine caller resource r') : Attends engine r r' [] := by
  cases he with
  | dismissed => exact attends_answer engine r caller _
  | waits => exact .of_waiting (.refl engine _)
  | begins unloaded running =>
    exact attends_begin running (active_of_not_isLoaded unloaded) caller resource

omit [Session σ] in
theorem shown_of_none (h : r.running = none) : r.shown = [] := by
  rw [shown, h]

/-- The attempt under way goes on, and has not made a session yet. -/
theorem attends_steps {r' : Room σ} (hs : r.Steps engine r') (hm : r.made? = none) :
    Attends engine r r' r.shown := by
  have hkeeps : ∀ m, r.made? = some m → r'.running = r.running := by
    intro m hsome
    cases hm.symm.trans hsome
  cases hs with
  | idle running =>
    rw [shown_of_none running]
    exact .refl engine r
  | @push a v next running rest =>
    have hshown : r.shown = r.controller.board.letThrough a.gate v := by
      obtain ⟨caller, resource, gate, _⟩ := a
      cases rest
      rw [shown, running]
    rw [hshown]
    refine ⟨rfl, rfl, Board.publishes_offer _ a.gate v, hkeeps, ?_, fun _ => rfl⟩
    intro a' ha'
    cases ha'
    exact .inl ⟨a, running, rfl, rfl, congrArg (·.outcome.2) rest.symm⟩
  | @suspend a next running rest =>
    have hshown : r.shown = [] := by
      obtain ⟨caller, resource, gate, _⟩ := a
      cases rest
      rw [shown, running]
    rw [hshown]
    refine ⟨rfl, rfl, .refl _, hkeeps, ?_, fun _ => rfl⟩
    intro a' ha'
    cases ha'
    exact .inl ⟨a, running, rfl, rfl, congrArg (·.outcome.2) rest.symm⟩
  | @finish a result running rest =>
    obtain ⟨caller, resource, gate, _⟩ := a
    cases result with
    | ok session =>
      cases rest
      rw [made?, running] at hm
      cases hm
    | error e =>
      cases rest
      have hshown : r.shown = [] := by rw [shown, running]
      rw [hshown]
      refine ⟨rfl, rfl, Board.publishes_revoke _ gate, hkeeps, ?_, ?_⟩
      · intro a' ha'
        cases ha'
      · exact fun outcome => handled_answer_loaded _ _ _ outcome
  | dismiss running =>
    rw [shown_of_none running]
    exact .of_waiting (attends_answer engine { r with waiting := _ } _ _)
  | @begin caller resource waiting running first unloaded =>
    rw [shown_of_none running]
    exact .of_waiting (attends_begin (r := { r with waiting }) running
      (active_of_not_isLoaded unloaded) caller resource)

end Room

namespace Lobby

/-- Whether a caller comes, or asks, to load. -/
def Event.comesToLoad : Event → Bool
  | .ask _ | .come (.load _) => true
  | .step | .come (.input _) => false

variable {σ : Type} [Session σ]

theorem attends_happen (engine : Engine σ) (l : Lobby σ) {e : Event}
    (he : e.comesToLoad = true) :
    Room.Attends engine l.room (l.happen engine e).room [] ∧
      Request.inputs (l.happen engine e).requests = Request.inputs l.requests := by
  cases e with
  | step => cases he
  | ask caller =>
    rw [happen]
    split
    · exact ⟨.refl engine _, rfl⟩
    · exact ⟨Room.attends_enters (Room.enters_enter engine _ _ _), rfl⟩
  | come request =>
    cases request with
    | input command => cases he
    | load resource =>
      rw [happen]
      split
      · exact ⟨Room.attends_answer engine _ _ _, Request.inputs_concat_load _ resource⟩
      · exact ⟨.refl engine _, Request.inputs_concat_load _ resource⟩

end Lobby

end StoryPlayer
