import StoryPlayer.Controller.Room

/-!
# All that can happen in a room

Among those who load, the attempt under way goes on or ends, or the first who waits has its turn. A
caller who asks to load is dismissed, waits, or begins an attempt. Each of these is one constructor
here, with what it depends on, so that an invariant of rooms is proved by cases.

* `Room.steps_step`: a step is one of `Room.Steps`.
* `Room.enters_enter`: what becomes of a request to load is one of `Room.Enters`.
-/

namespace StoryPlayer

/-- The end of a course. -/
def Loading.ending {σ : Type} : Except LoadError σ → Loading σ
  | .ok session => .ready session
  | .error e => .failed e

namespace Room

variable {σ : Type} [Session σ]

/-- What can happen among those who load. -/
inductive Steps (engine : Engine σ) (r : Room σ) : Room σ → Prop
  /-- Nobody loads or waits to. -/
  | idle (running : r.running = none) (waiting : r.waiting = []) : Steps engine r r
  /-- The attempt under way pushes a view. -/
  | push {a : Attempt σ} {v : View} {next : Loading σ} (running : r.running = some a)
      (rest : a.rest = .push v next) :
      Steps engine r { r with
        controller := r.controller.push a.gate v
        running := some { a with rest := next } }
  /-- It waits no longer. -/
  | suspend {a : Attempt σ} {next : Loading σ} (running : r.running = some a)
      (rest : a.rest = .suspend next) :
      Steps engine r { r with running := some { a with rest := next } }
  /-- It ends. -/
  | finish {a : Attempt σ} {result : Except LoadError σ} (running : r.running = some a)
      (rest : a.rest = .ending result) : Steps engine r (r.finish a result)
  /-- The first who waits finds a session. -/
  | dismiss {caller : CallerId} {resource : String} {waiting : List (CallerId × String)}
      (running : r.running = none) (first : r.waiting = (caller, resource) :: waiting)
      (loaded : r.controller.isLoaded = true) :
      Steps engine r ({ r with waiting }.answer caller (.loaded (.ok .alreadyActive)))
  /-- The first who waits begins an attempt. -/
  | begin {caller : CallerId} {resource : String} {waiting : List (CallerId × String)}
      (running : r.running = none) (first : r.waiting = (caller, resource) :: waiting)
      (unloaded : ¬ r.controller.isLoaded = true) :
      Steps engine r ({ r with waiting }.begin engine caller resource)

/-- What can happen to a caller who asks to load. -/
inductive Enters (engine : Engine σ) (r : Room σ) (caller : CallerId) (resource : String) :
    Room σ → Prop
  | dismissed (loaded : r.controller.isLoaded = true) :
      Enters engine r caller resource (r.answer caller (.loaded (.ok .alreadyActive)))
  | waits (unloaded : ¬ r.controller.isLoaded = true) (busy : r.isBusy = true) :
      Enters engine r caller resource { r with waiting := r.waiting ++ [(caller, resource)] }
  | begins (unloaded : ¬ r.controller.isLoaded = true) (running : r.running = none)
      (waiting : r.waiting = []) :
      Enters engine r caller resource (r.begin engine caller resource)

/-- **A step** of those who load. -/
theorem steps_step (engine : Engine σ) (r : Room σ) : Steps engine r (r.step engine) := by
  cases hr : r.running with
  | some a =>
    cases ha : a.rest with
    | push v next =>
      have hpush : Steps engine r _ := .push hr ha
      simpa [step, hr, ha] using hpush
    | suspend next =>
      have hsuspend : Steps engine r _ := .suspend hr ha
      simpa [step, hr, ha] using hsuspend
    | ready session =>
      have hfinish : Steps engine r (r.finish a (.ok session)) := .finish hr ha
      simpa [step, hr, ha] using hfinish
    | failed e =>
      have hfinish : Steps engine r (r.finish a (.error e)) := .finish hr ha
      simpa [step, hr, ha] using hfinish
  | none =>
    cases hw : r.waiting with
    | nil =>
      have hidle : Steps engine r r := .idle hr hw
      simpa [step, hr, hw] using hidle
    | cons p waiting =>
      by_cases hl : r.controller.isLoaded = true
      · have hdismiss : Steps engine r _ := .dismiss hr hw hl
        simpa [step, hr, hw, hl] using hdismiss
      · have hbegin : Steps engine r _ := .begin hr hw hl
        simpa [step, hr, hw, hl] using hbegin

omit [Session σ] in
theorem isBusy_eq_false_iff {r : Room σ} :
    r.isBusy = false ↔ r.running = none ∧ r.waiting = [] := by
  rw [isBusy, Bool.or_eq_false_iff, Bool.not_eq_false', List.isEmpty_iff, Option.isSome_eq_false_iff,
    Option.isNone_iff_eq_none]

/-- **A request to load.** -/
theorem enters_enter (engine : Engine σ) (r : Room σ) (caller : CallerId) (resource : String) :
    Enters engine r caller resource (r.enter engine caller (.load resource)) := by
  rw [enter]
  split
  · rename_i hl
    exact .dismissed hl
  · rename_i hl
    split
    · rename_i hb
      exact .waits hl hb
    · rename_i hb
      obtain ⟨hr, hw⟩ := isBusy_eq_false_iff.mp (Bool.not_eq_true _ ▸ hb)
      exact .begins hl hr hw

end Room

end StoryPlayer
