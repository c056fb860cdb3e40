import StoryPlayer.Controller

/-!
# Many callers at once

A room holds a controller and the callers that want something of it at the same time. Commands are
answered at once. Of the requests to load, one makes an attempt while the others wait their turn:
when the attempt fails, the next in line makes one of its own, and when it succeeds, all of them find
the session made.
-/

namespace StoryPlayer

/-- A caller, by its place among all callers. -/
abbrev CallerId := Nat

/-- An attempt under way: who makes it, for which story, through which gate, and what is left of its
course. -/
structure Attempt (σ : Type) where
  caller : CallerId
  resource : String
  gate : GateId
  rest : Loading σ

inductive Request where
  | load (resource : String)
  | input (command : Command)

inductive Answer where
  | loaded (result : Except LoadError LoadOutcome)
  | handled (outcome : InputOutcome)

/-- What is kept of the attempts of callers: when each began, and how it ended. -/
inductive Milestone where
  | began (caller : CallerId) (resource : String)
  | ended (caller : CallerId) (resource : String) (result : Except LoadError Unit)

structure Room (σ : Type) where
  controller : Controller σ
  running : Option (Attempt σ)
  /-- Those who wait to load, in order, and the stories they ask for. -/
  waiting : List (CallerId × String)
  /-- What callers have been answered, in the order of the answers. -/
  answers : List (CallerId × Answer)
  /-- What has happened to attempts, in order. -/
  history : List Milestone

namespace Room

variable {σ : Type} [Session σ]

/-- A room without callers. -/
def ofController (c : Controller σ) : Room σ := ⟨c, none, [], [], []⟩

def answer (r : Room σ) (caller : CallerId) (a : Answer) : Room σ :=
  { r with answers := r.answers ++ [(caller, a)] }

/-- Begin the attempt of a caller. -/
def begin (r : Room σ) (engine : Engine σ) (caller : CallerId) (resource : String) : Room σ :=
  { r with
    controller := r.controller.openAttempt.2
    running := some ⟨caller, resource, r.controller.openAttempt.1,
      engine.start r.controller.attempts resource⟩
    history := r.history ++ [.began caller resource] }

/-- End the attempt under way. -/
def finish (r : Room σ) (a : Attempt σ) (result : Except LoadError σ) : Room σ :=
  let (controller, outcome) := r.controller.conclude a.gate a.resource result
  let history := r.history ++ [.ended a.caller a.resource (result.map fun _ => ())]
  { r with controller, running := none, history }.answer a.caller (.loaded outcome)

/-- The next thing that happens among those who load: a step of the attempt under way, or else the
turn of the first who waits. -/
def step (r : Room σ) (engine : Engine σ) : Room σ :=
  match r.running with
  | some a =>
    match a.rest with
    | .push v next =>
      { r with
        controller := r.controller.push a.gate v
        running := some { a with rest := next } }
    | .suspend next => { r with running := some { a with rest := next } }
    | .ready session => r.finish a (.ok session)
    | .failed e => r.finish a (.error e)
  | none =>
    match r.waiting with
    | [] => r
    | (caller, resource) :: waiting =>
      if r.controller.isLoaded then
        { r with waiting }.answer caller (.loaded (.ok .alreadyActive))
      else { r with waiting }.begin engine caller resource

/-- How many steps the attempt under way takes. -/
def runningSize (r : Room σ) : Nat :=
  match r.running with
  | some a => a.rest.size
  | none => 0

theorem runningSize_step_lt {r : Room σ} (engine : Engine σ) {a : Attempt σ}
    (h : r.running = some a) : (r.step engine).runningSize < r.runningSize := by
  cases ha : a.rest <;> simp [step, runningSize, finish, answer, h, ha, Loading.size]

theorem waiting_step_of_running {r : Room σ} (engine : Engine σ) {a : Attempt σ}
    (h : r.running = some a) : (r.step engine).waiting = r.waiting := by
  cases ha : a.rest <;> simp [step, finish, answer, h, ha]

theorem length_waiting_step_lt {r : Room σ} (engine : Engine σ) (h : r.running = none)
    (hw : r.waiting ≠ []) : (r.step engine).waiting.length < r.waiting.length := by
  cases hl : r.waiting with
  | nil => exact absurd hl hw
  | cons w ws => by_cases hc : r.controller.isLoaded <;> simp [step, h, hl, hc, answer, begin]

/-- Go on with the attempt under way until it has to wait or has ended. -/
def poll (r : Room σ) (engine : Engine σ) : Room σ :=
  match _h : r.running with
  | none => r
  | some a =>
    match a.rest with
    | .suspend _ => r.step engine
    | _ => (r.step engine).poll engine
termination_by r.runningSize
decreasing_by exact runningSize_step_lt engine _h

/-- Go on until nobody waits any more. -/
def settle (r : Room σ) (engine : Engine σ) : Room σ :=
  match _h : r.running, _hw : r.waiting with
  | none, [] => r
  | none, _ :: _ => (r.step engine).settle engine
  | some _, _ => (r.step engine).settle engine
termination_by (r.waiting.length, r.runningSize)
decreasing_by
  · exact .left _ _ (length_waiting_step_lt engine _h (by simp [_hw]))
  · rw [waiting_step_of_running engine _h]
    exact .right _ (runningSize_step_lt engine _h)

/-- Whether somebody makes an attempt or waits to. -/
def isBusy (r : Room σ) : Bool := r.running.isSome || !r.waiting.isEmpty

/-- A caller comes in with a request. A command is answered at once; a request to load is answered if
there is a session, waits if others are before it, and begins an attempt otherwise. -/
def enter (r : Room σ) (engine : Engine σ) (caller : CallerId) : Request → Room σ
  | .input command =>
    let (controller, outcome) := r.controller.handle command
    { r with controller }.answer caller (.handled outcome)
  | .load resource =>
    if r.controller.isLoaded then r.answer caller (.loaded (.ok .alreadyActive))
    else if r.isBusy then { r with waiting := r.waiting ++ [(caller, resource)] }
    else r.begin engine caller resource

/-- A caller comes in with a request, and goes as far as it gets without waiting. -/
def call (r : Room σ) (engine : Engine σ) (caller : CallerId) (request : Request) : Room σ :=
  if r.isBusy then r.enter engine caller request
  else (r.enter engine caller request).poll engine

/-- All callers come in one after another, and stay until they are answered. -/
def callAll (r : Room σ) (engine : Engine σ) (requests : List Request) : Room σ :=
  (requests.zipIdx.foldl (fun r (request, caller) => r.call engine caller request) r).settle engine

/-- What a caller has been answered. -/
def answerOf? (r : Room σ) (caller : CallerId) : Option Answer :=
  (r.answers.find? fun a => a.1 = caller).map Prod.snd

end Room

end StoryPlayer
