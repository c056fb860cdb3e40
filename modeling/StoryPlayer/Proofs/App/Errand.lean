import StoryPlayer.App
import StoryPlayer.Proofs.Controller.Office

/-!
# The loading of a mounted story

A mounted room has one caller, who asks it to load.  The errand waits, runs and is answered, or breaks
off; nothing follows an answer (`Room.Errand.steps`).  Whatever the room does in the meantime, its board
only gets further publications (`Room.precedes_steps`, `Controller.precedes_handle`), so one who has seen
as many of them as there are knows what it shows (`Board.Precedes.current_of_count_le`).
-/

namespace StoryPlayer

/-! ## Boards that go on -/

/-- The second board is the first one after some publications. -/
def Board.Precedes (b b' : Board) : Prop := ∃ views, b.Publishes views b'

namespace Board.Precedes

variable {b b' b'' : Board}

theorem refl (b : Board) : b.Precedes b := ⟨[], .refl b⟩

theorem trans (h : b.Precedes b') (h' : b'.Precedes b'') : b.Precedes b'' := by
  obtain ⟨views, hpub⟩ := h
  obtain ⟨views', hpub'⟩ := h'
  exact ⟨views ++ views', hpub.trans hpub'⟩

theorem count_le (h : b.Precedes b') : b.count ≤ b'.count := by
  obtain ⟨views, hpub⟩ := h
  rw [hpub.count]
  exact Nat.le_add_right _ _

/-- A board that has published nothing since shows the same. -/
theorem current_of_count_le (h : b.Precedes b') (hcount : b'.count ≤ b.count) :
    b'.current = b.current := by
  obtain ⟨views, hpub⟩ := h
  have hlength := hpub.count
  have hviews : views = [] := List.length_eq_zero_iff.mp (by omega)
  rw [hpub.current, hviews]
  rfl

end Board.Precedes

namespace Controller

variable {σ : Type}

theorem precedes_push (c : Controller σ) (gate : GateId) (v : View) :
    c.board.Precedes (c.push gate v).board :=
  ⟨_, Board.publishes_offer c.board gate v⟩

theorem precedes_foldl_push (c : Controller σ) (gate : GateId) (views : List View) :
    c.board.Precedes (views.foldl (fun c v => c.push gate v) c).board := by
  induction views generalizing c with
  | nil => exact .refl c.board
  | cons v views ih => exact (precedes_push c gate v).trans (ih (c.push gate v))

variable [Session σ]

theorem precedes_rebuild (c : Controller σ) (session : σ) :
    c.board.Precedes (c.rebuild session).board :=
  ⟨_, publishes_rebuild c session⟩

theorem precedes_handle (c : Controller σ) (command : Command) :
    c.board.Precedes (c.handle command).1.board := by
  cases ha : c.active with
  | none =>
    rw [handle_of_none ha]
    exact .refl c.board
  | some a =>
    rw [handle, ha]
    let received : Controller σ :=
      { c with
        received := .evaluate command :: c.received
        active := some { a with session := (Session.evaluate a.session command).1 } }
    exact (precedes_foldl_push received a.gate (Session.evaluate a.session command).2).trans
      (precedes_rebuild _ _)

theorem precedes_conclude (c : Controller σ) (gate : GateId) (resource : String)
    (result : Except LoadError σ) :
    c.board.Precedes (c.conclude gate resource result).1.board := by
  cases result with
  | error e => exact ⟨[], Board.publishes_revoke c.board gate⟩
  | ok session =>
    have harm : c.board.Precedes (c.board.arm gate) := ⟨_, Board.publishes_arm_held? c.board gate⟩
    exact harm.trans (precedes_rebuild { c with board := c.board.arm gate } session)

end Controller

namespace Room

variable {σ : Type} {r : Room σ}

/-- The task of those who load dies: nobody makes an attempt any more, and nobody waits. -/
def breakOff (r : Room σ) : Room σ := { r with running := none, waiting := [] }

/-- Whether nobody makes an attempt, nobody waits, and the loader has no answer. -/
def isBrokenOff (r : Room σ) : Bool := !r.isBusy && (r.answerOf? App.loader).isNone

/-- How far the one caller of a mounted room has come. -/
inductive Errand : Room σ → Prop
  | waits {r : Room σ} (resource : String) (running : r.running = none)
      (waiting : r.waiting = [(App.loader, resource)]) (answers : r.answers = []) : Errand r
  | runs {r : Room σ} (a : Attempt σ) (running : r.running = some a) (caller : a.caller = App.loader)
      (waiting : r.waiting = []) (answers : r.answers = []) : Errand r
  | answered {r : Room σ} (result : Except LoadError LoadOutcome) (running : r.running = none)
      (waiting : r.waiting = []) (answers : r.answers = [(App.loader, .loaded result)])
      (loaded : ∀ outcome, result = .ok outcome → r.controller.isLoaded = true) : Errand r
  | brokenOff {r : Room σ} (running : r.running = none) (waiting : r.waiting = [])
      (answers : r.answers = []) : Errand r

theorem errand_roomFor (resource : String) : Errand (App.roomFor resource : Room σ) :=
  .waits resource rfl rfl rfl

theorem Errand.withController (h : r.Errand) {c : Controller σ}
    (hc : r.controller.isLoaded = true → c.isLoaded = true) :
    ({ r with controller := c } : Room σ).Errand := by
  cases h with
  | waits resource running waiting answers => exact .waits resource running waiting answers
  | runs a running caller waiting answers => exact .runs a running caller waiting answers
  | answered result running waiting answers loaded =>
    exact .answered result running waiting answers fun outcome ho => hc (loaded outcome ho)
  | brokenOff running waiting answers => exact .brokenOff running waiting answers

theorem Errand.breakOff (h : r.Errand) : r.breakOff.Errand := by
  cases h with
  | waits resource running waiting answers => exact .brokenOff rfl rfl answers
  | runs a running caller waiting answers => exact .brokenOff rfl rfl answers
  | answered result running waiting answers loaded => exact .answered result rfl rfl answers loaded
  | brokenOff running waiting answers => exact .brokenOff rfl rfl answers

/-- Only the loader makes an attempt, -/
theorem Errand.of_running (h : r.Errand) {a : Attempt σ} (hr : r.running = some a) :
    a.caller = App.loader ∧ r.waiting = [] ∧ r.answers = [] := by
  cases h with
  | runs b running caller waiting answers =>
    cases hr.symm.trans running
    exact ⟨caller, waiting, answers⟩
  | waits resource running => cases hr.symm.trans running
  | answered result running => cases hr.symm.trans running
  | brokenOff running => cases hr.symm.trans running

/-- and only the loader waits. -/
theorem Errand.of_waiting (h : r.Errand) {caller : CallerId} {resource : String}
    {rest : List (CallerId × String)} (hw : r.waiting = (caller, resource) :: rest) :
    caller = App.loader ∧ rest = [] ∧ r.answers = [] := by
  cases h with
  | waits id running waiting answers =>
    cases hw.symm.trans waiting
    exact ⟨rfl, rfl, answers⟩
  | runs a running caller waiting => cases hw.symm.trans waiting
  | answered result running waiting => cases hw.symm.trans waiting
  | brokenOff running waiting => cases hw.symm.trans waiting

/-- The loader's answer is the end of the errand. -/
theorem Errand.of_answerOf? (h : r.Errand) {result : Except LoadError LoadOutcome}
    (ha : r.answerOf? App.loader = some (.loaded result)) :
    r.isBusy = false ∧ ∀ outcome, result = .ok outcome → r.controller.isLoaded = true := by
  rw [answerOf?] at ha
  cases h with
  | answered result' running waiting answers loaded =>
    rw [answers] at ha
    cases ha
    refine ⟨?_, loaded⟩
    rw [isBusy, running, waiting]
    rfl
  | _ =>
    rename_i answers
    rw [answers] at ha
    cases ha

/-! ## One step -/

variable [Session σ]

theorem precedes_steps {engine : Engine σ} {r' : Room σ} (hs : r.Steps engine r') :
    r.controller.board.Precedes r'.controller.board := by
  cases hs with
  | idle => exact .refl _
  | @push a v => exact Controller.precedes_push r.controller a.gate v
  | suspend => exact .refl _
  | @finish a result =>
    exact Controller.precedes_conclude r.controller a.gate a.resource result
  | dismiss => exact .refl _
  | begin => exact ⟨[], Board.publishes_openGate _⟩

/-- A room where nobody loads goes no further. -/
theorem step_of_not_isBusy (h : r.isBusy = false) (engine : Engine σ) : r.step engine = r := by
  obtain ⟨hrunning, hwaiting⟩ := isBusy_eq_false_iff.mp h
  simp [Room.step, hrunning, hwaiting]

/-- The attempt under way ends, and its caller is answered. -/
theorem Errand.finish {a : Attempt σ} (caller : a.caller = App.loader) (waiting : r.waiting = [])
    (answers : r.answers = []) (result : Except LoadError σ) : (r.finish a result).Errand := by
  obtain ⟨-, hresource, houtcome⟩ :=
    Controller.conclude_frame r.controller a.gate a.resource result
  refine .answered (result.map fun _ => .started) rfl waiting ?_ ?_
  · show r.answers ++
      [(a.caller, .loaded (r.controller.conclude a.gate a.resource result).2)] = _
    rw [answers, caller, houtcome]
    rfl
  · intro outcome ho
    show (r.controller.conclude a.gate a.resource result).1.isLoaded = true
    cases result with
    | error e => cases ho
    | ok session => rw [Controller.isLoaded_eq, hresource, Option.isSome_some]

/-- **One step of the errand.** -/
theorem Errand.steps {engine : Engine σ} {r' : Room σ} (h : r.Errand) (hs : r.Steps engine r') :
    r'.Errand := by
  cases hs with
  | idle => exact h
  | push running =>
    obtain ⟨caller, waiting, answers⟩ := h.of_running running
    exact .runs _ rfl caller waiting answers
  | suspend running =>
    obtain ⟨caller, waiting, answers⟩ := h.of_running running
    exact .runs _ rfl caller waiting answers
  | finish running =>
    obtain ⟨caller, waiting, answers⟩ := h.of_running running
    exact .finish caller waiting answers _
  | dismiss running first loaded =>
    obtain ⟨rfl, rfl, answers⟩ := h.of_waiting first
    refine .answered (.ok .alreadyActive) running rfl ?_ fun _ _ => loaded
    rw [answer, answers]
    rfl
  | begin running first =>
    obtain ⟨rfl, rfl, answers⟩ := h.of_waiting first
    exact .runs _ rfl rfl rfl answers

end Room

end StoryPlayer
