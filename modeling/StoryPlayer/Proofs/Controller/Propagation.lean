import StoryPlayer.Controller.Room
import StoryPlayer.Engine.ScriptEngine
import StoryPlayer.Proofs.Controller.Reading
import StoryPlayer.Proofs.Story.Scene

/-!
# Pushing and pulling show the same

Two controllers of the script engine that differ only in how views travel are used in the same way:
stories are loaded, commands are handed in, and what can be read changes in between. After every
operation both have given the same answer and show the same view, and only the number of
publications tells them apart.

* `Controller.Plays`: a controller that plays a story and shows it.
* `Recital.Alike.step`: the relation between the two controllers, kept by every turn.
* `Recital.push_agrees_with_pull`: every run.
-/

namespace StoryPlayer

/-! ## Sessions of scripts -/

namespace Story

/-- Whether a command moves a story on. -/
def isMovedBy (s : Story) (c : Command) : Bool := isAdvancing c.name && !s.isFinished

/-- A story after a command. -/
def after (s : Story) (c : Command) : Story :=
  if isAdvancing c.name then s.advance?.getD s else s

theorem after_of_not_isMovedBy {s : Story} {c : Command} (h : s.isMovedBy c = false) :
    s.after c = s := by
  rw [after]
  split
  · rename_i ha
    have hf : s.isFinished = true := by simpa [isMovedBy, ha] using h
    rw [advance?, if_pos hf]
    rfl
  · rfl

theorem length_scene_after_le {s : Story} (h : s.stage.scene.length ≤ 1) (c : Command) :
    (s.after c).stage.scene.length ≤ 1 := by
  rw [after]
  split
  · cases ha : s.advance? with
    | none => exact h
    | some s' => exact length_scene_advance_le h ha
  · exact h

end Story

namespace ScriptSession

theorem evaluate_eq (s : ScriptSession) (c : Command) :
    Session.evaluate s c =
      (⟨s.story.after c, s.propagation⟩,
        if s.story.isMovedBy c ∧ s.propagation = .push then [(s.story.after c).view] else []) := by
  change s.evaluate c = _
  rw [evaluate, Story.after, Story.isMovedBy]
  cases hn : isAdvancing c.name with
  | false => simp
  | true =>
    cases hf : s.story.isFinished with
    | true => simp [Story.advance?, hf]
    | false => simp [Story.advance?, hf]

/-- The first image is all of the scene, so what can be read is what would have been pushed. -/
theorem reading_eq (s : ScriptSession) (h : s.story.stage.scene.length ≤ 1) :
    Session.reading s = if s.propagation = .push then [] else [s.story.view] := by
  change ((s.accessors?).map Accessors.view).toList = _
  rw [accessors?]
  cases s.propagation with
  | push => rfl
  | pull =>
    have hlines : (List.range s.story.view.text.toArray.size).map
        (fun i => s.story.view.text.toArray.getD i "") = s.story.view.text := by
      refine List.ext_getElem (by simp) fun i h₁ h₂ => ?_
      simp [Array.getD, h₂]
    simp only [Option.map_some, Option.toList_some, Accessors.view, hlines,
      View.scene_eq_of_length_le (v := s.story.view) h]
    rfl

end ScriptSession

/-! ## Controllers of scripts -/

namespace Controller

variable {c : Controller ScriptSession} {p : Propagation} {resource : String} {story : Story}

/-- The controller plays a story, loaded by this name, and shows it. -/
structure Plays (c : Controller ScriptSession) (p : Propagation) (resource : String)
    (story : Story) : Prop where
  active : ∃ gate, c.active = some ⟨resource, ⟨story, p⟩, gate⟩ ∧
    c.board.gates[gate]? = some .armed
  scene : story.stage.scene.length ≤ 1
  current : c.board.current = story.view

theorem Plays.isLoaded (h : c.Plays p resource story) : c.isLoaded = true := by
  obtain ⟨gate, ha, -⟩ := h.active
  rw [Controller.isLoaded, ha]
  rfl

theorem Plays.resource? (h : c.Plays p resource story) : c.resource? = some resource := by
  obtain ⟨gate, ha, -⟩ := h.active
  rw [Controller.resource?, ha]
  rfl

/-- Whether a command moves on the story that is played. -/
def isMovedBy (c : Controller ScriptSession) (command : Command) : Bool :=
  c.active.any fun a => a.session.story.isMovedBy command

theorem Plays.isMovedBy (h : c.Plays p resource story) (command : Command) :
    c.isMovedBy command = story.isMovedBy command := by
  obtain ⟨gate, ha, -⟩ := h.active
  rw [Controller.isMovedBy, ha]
  rfl

theorem Plays.load (h : c.Plays p resource story) (engine : Engine ScriptSession) (id : String) :
    c.load engine id = (c, .ok .alreadyActive) := by
  rw [Controller.load, if_pos h.isLoaded]

/-- A script that cannot be loaded leaves the controller as it was, to all appearances. -/
theorem load_script_error (h : c.active = none) {e : ScriptEngine} {sources : Host.Sources}
    {id : String} {err : LoadError} (he : e.load sources id = .error err) :
    ∃ c', c.load (e.engine sources) id = (c', .error err) ∧ c'.active = none ∧
      c.board.Publishes [] c'.board := by
  have hout : ((e.engine sources).start c.attempts id).outcome = ([], .error err) := by
    simp only [ScriptEngine.engine, ScriptEngine.start, he, Loading.outcome]
  exact load_error h hout

/-- A script that can be loaded is published once, whichever way its views travel. -/
theorem load_script_ok (h : c.active = none) {e : ScriptEngine} {sources : Host.Sources}
    {id : String} {tokens : List Script.Token} (he : e.load sources id = .ok tokens) :
    ∃ c', c.load (e.engine sources) id = (c', .ok .started) ∧
      c'.Plays e.propagation id (Story.ofTokens tokens).run ∧
      c.board.Publishes [(Story.ofTokens tokens).run.view] c'.board := by
  let session := ScriptSession.begin e.propagation tokens
  have hscene : session.story.stage.scene.length ≤ 1 :=
    Story.length_scene_run_le (s := Story.ofTokens tokens) (Nat.zero_le 1)
  have hout : ((e.engine sources).start c.attempts id).outcome =
      (if e.propagation = .push then [session.story.view] else [], .ok session) := by
    simp only [ScriptEngine.engine, ScriptEngine.start, he]
    cases hp : e.propagation with
    | push => simp [Loading.outcome, session, hp]
    | pull => simp [Loading.outcome, session, hp]
  obtain ⟨c', gate, hload, hactive, hgate, hpub⟩ := load_ok h hout
  have hviews : (if e.propagation = .push then [session.story.view] else []).getLast?.toList ++
      Session.reading session = [session.story.view] := by
    rw [ScriptSession.reading_eq session hscene]
    cases hp : e.propagation with
    | push => simp [session, ScriptSession.begin, hp]
    | pull => simp [session, ScriptSession.begin, hp]
  rw [hviews] at hpub
  exact ⟨c', hload, ⟨⟨gate, hactive, hgate⟩, hscene, hpub.current⟩, hpub⟩

/-- A command is answered by a view if it moves the story on, and also otherwise if views are
read. -/
theorem Plays.publishes_handle (h : c.Plays p resource story) (command : Command) :
    ∃ c', c.handle command = (c', .evaluated) ∧ c'.Plays p resource (story.after command) ∧
      c.board.Publishes
        (if p = .push ∧ story.isMovedBy command = false then [] else [(story.after command).view])
        c'.board := by
  obtain ⟨gate, ha, hg⟩ := h.active
  obtain ⟨c', hhandle, hactive, hgates, hpub⟩ := handle_of_active ha hg command
  have hscene := Story.length_scene_after_le h.scene command
  rw [ScriptSession.evaluate_eq] at hactive hpub
  rw [ScriptSession.reading_eq _ hscene] at hpub
  have hviews : (if story.isMovedBy command = true ∧ p = .push then [(story.after command).view]
        else []) ++ (if p = .push then [] else [(story.after command).view]) =
      if p = .push ∧ story.isMovedBy command = false then [] else [(story.after command).view] := by
    cases p with
    | pull => simp
    | push => cases story.isMovedBy command <;> simp
  rw [hviews] at hpub
  refine ⟨c', hhandle, ⟨⟨gate, hactive, hgates ▸ hg⟩, hscene, ?_⟩, hpub⟩
  rw [hpub.current]
  split
  · rename_i hm
    rw [Story.after_of_not_isMovedBy hm.2]
    exact h.current
  · rfl

theorem Plays.handle (h : c.Plays p resource story) (command : Command) :
    ∃ c', c.handle command = (c', .evaluated) ∧ c'.Plays p resource (story.after command) ∧
      c'.board.count =
        c.board.count + if p = .push ∧ story.isMovedBy command = false then 0 else 1 := by
  obtain ⟨c', hhandle, hplays, hpub⟩ := h.publishes_handle command
  refine ⟨c', hhandle, hplays, hpub.count.trans ?_⟩
  split
  · rfl
  · rfl

end Controller

/-! ## Recitals -/

/-- What can happen to a controller of scripts, one thing after another. -/
inductive Turn where
  | load (id : String)
  | input (command : Command)
  /-- Files and pages change. -/
  | change (sources : Host.Sources)

/-- What can be seen of a controller after a turn, with the answer that the turn was given. -/
structure Sight where
  answer : Option Answer
  isLoaded : Bool
  resource? : Option String
  current : View

namespace Sight

/-- Whether the turn made the session. -/
def isStart (s : Sight) : Bool :=
  match s.answer with
  | some (.loaded (.ok .started)) => true
  | _ => false

/-- Whether the turn was a command that a session took. -/
def isEvaluated (s : Sight) : Bool :=
  match s.answer with
  | some (.handled .evaluated) => true
  | _ => false

end Sight

/-- A controller of scripts in use. -/
structure Recital where
  /-- What can be read at the time. -/
  sources : Host.Sources
  controller : Controller ScriptSession
  /-- What could be seen after each turn, in order. -/
  seen : List Sight
  /-- How many commands have moved the story on. -/
  moved : Nat

namespace Recital

/-- What can be seen after a turn with this answer. -/
def sight (r : Recital) (answer : Option Answer) : Sight :=
  ⟨answer, r.controller.isLoaded, r.controller.resource?, r.controller.board.current⟩

/-- The recital with what can be seen after a turn. -/
def noted (r : Recital) (answer : Option Answer) : Recital :=
  { r with seen := r.seen ++ [r.sight answer] }

def step (e : ScriptEngine) (r : Recital) : Turn → Recital
  | .load id =>
    let (controller, result) := r.controller.load (e.engine r.sources) id
    { r with controller }.noted (some (.loaded result))
  | .input command =>
    let (controller, outcome) := r.controller.handle command
    let moved := if r.controller.isMovedBy command then r.moved + 1 else r.moved
    { r with controller, moved }.noted (some (.handled outcome))
  | .change sources => { r with sources }.noted none

/-- A recital with a controller that is new, turn by turn. -/
def run (e : ScriptEngine) (sources : Host.Sources) (turns : List Turn) : Recital :=
  turns.foldl (step e) ⟨sources, .fresh, [], 0⟩

/-- Whether a turn has made the session. -/
def isStarted (r : Recital) : Bool := r.seen.any Sight.isStart

/-- How many commands a session has taken. -/
def evaluated (r : Recital) : Nat := r.seen.countP Sight.isEvaluated

/-- How many publications there are after the first view of a story. -/
def further (r : Recital) : Propagation → Nat
  | .push => r.moved
  | .pull => r.evaluated

/-! ## One turn -/

variable {r p q : Recital} {e : ScriptEngine} {propagation : Propagation} {resource : String}
  {story : Story}

/-- No story has been loaded, and nothing has been published. -/
structure Idle (r : Recital) : Prop where
  active : r.controller.active = none
  current : r.controller.board.current = .placeholder
  count : r.controller.board.count = 0
  notStarted : r.isStarted = false
  moved : r.moved = 0
  evaluated : r.evaluated = 0

/-- A story is played, and has been published as often as the propagation asks for. -/
structure Playing (r : Recital) (propagation : Propagation) (resource : String) (story : Story) :
    Prop where
  plays : r.controller.Plays propagation resource story
  started : r.isStarted = true
  count : r.controller.board.count = 1 + r.further propagation

@[simp] theorem isStarted_noted (r : Recital) (answer : Option Answer) :
    (r.noted answer).isStarted = (r.isStarted || (r.sight answer).isStart) := by
  simp [isStarted, noted]

@[simp] theorem evaluated_noted (r : Recital) (answer : Option Answer) :
    (r.noted answer).evaluated =
      r.evaluated + if (r.sight answer).isEvaluated then 1 else 0 := by
  simp [evaluated, noted, List.countP_singleton]

theorem seen_noted_of_idle (ha : r.controller.active = none)
    (hc : r.controller.board.current = .placeholder) (answer : Option Answer) :
    (r.noted answer).seen = r.seen ++ [⟨answer, false, none, .placeholder⟩] := by
  rw [noted, sight, hc, Controller.isLoaded, Controller.resource?, ha]
  rfl

theorem seen_noted_of_plays (h : r.controller.Plays propagation resource story)
    (answer : Option Answer) :
    (r.noted answer).seen = r.seen ++ [⟨answer, true, some resource, story.view⟩] := by
  rw [noted, sight, h.isLoaded, h.resource?, h.current]

/-- A recital that is idle stays so if its turn neither made a session nor reached one. -/
theorem Idle.noted (h : r.Idle) {answer : Option Answer}
    (hs : (r.sight answer).isStart = false) (he : (r.sight answer).isEvaluated = false) :
    (r.noted answer).Idle where
  active := h.active
  current := h.current
  count := h.count
  notStarted := by rw [isStarted_noted, h.notStarted, hs]; rfl
  moved := h.moved
  evaluated := by rw [evaluated_noted, h.evaluated, he]; rfl

theorem Playing.noted (h : r.Playing propagation resource story) {answer : Option Answer}
    (he : (r.sight answer).isEvaluated = false) :
    (r.noted answer).Playing propagation resource story where
  plays := h.plays
  started := by rw [isStarted_noted, h.started]; rfl
  count := by
    refine h.count.trans ?_
    cases propagation with
    | push => rfl
    | pull => rw [further, further, evaluated_noted, he]; rfl

theorem Idle.load_error (h : r.Idle) {id : String} {err : LoadError}
    (he : e.load r.sources id = .error err) :
    (r.step e (.load id)).Idle ∧ (r.step e (.load id)).seen =
      r.seen ++ [⟨some (.loaded (.error err)), false, none, .placeholder⟩] := by
  obtain ⟨c, hload, hactive, hpub⟩ := Controller.load_script_error h.active he
  have hcurrent : c.board.current = .placeholder := hpub.current.trans h.current
  have hidle : ({ r with controller := c } : Recital).Idle :=
    ⟨hactive, hcurrent, hpub.count.trans h.count, h.notStarted, h.moved, h.evaluated⟩
  have hstep : r.step e (.load id) =
      ({ r with controller := c } : Recital).noted (some (.loaded (.error err))) := by
    rw [step, hload]
  rw [hstep]
  refine ⟨hidle.noted rfl rfl, ?_⟩
  exact seen_noted_of_idle hactive hcurrent _

theorem Idle.load_ok (h : r.Idle) {id : String} {tokens : List Script.Token}
    (he : e.load r.sources id = .ok tokens) :
    (r.step e (.load id)).Playing e.propagation id (Story.ofTokens tokens).run ∧
      (r.step e (.load id)).seen = r.seen ++
        [⟨some (.loaded (.ok .started)), true, some id, (Story.ofTokens tokens).run.view⟩] := by
  obtain ⟨c, hload, hplays, hpub⟩ := Controller.load_script_ok h.active he
  have hstep : r.step e (.load id) =
      ({ r with controller := c } : Recital).noted (some (.loaded (.ok .started))) := by
    rw [step, hload]
  rw [hstep]
  refine ⟨⟨hplays, ?_, ?_⟩, ?_⟩
  · rw [isStarted_noted]
    exact Bool.or_true _
  · have hfurther : (({ r with controller := c } : Recital).noted
        (some (.loaded (.ok .started)))).further e.propagation = 0 := by
      cases e.propagation with
      | push => exact h.moved
      | pull => exact (evaluated_noted _ _).trans h.evaluated
    rw [hfurther]
    exact hpub.count.trans (congrArg (· + 1) h.count)
  · exact seen_noted_of_plays hplays _

theorem Idle.input (h : r.Idle) (command : Command) :
    (r.step e (.input command)).Idle ∧ (r.step e (.input command)).seen =
      r.seen ++ [⟨some (.handled .ignored), false, none, .placeholder⟩] := by
  have hmoved : r.controller.isMovedBy command = false := by
    rw [Controller.isMovedBy, h.active]
    rfl
  have hstep : r.step e (.input command) = r.noted (some (.handled .ignored)) := by
    rw [step, Controller.handle_of_none h.active, hmoved]
    rfl
  rw [hstep]
  exact ⟨h.noted rfl rfl, seen_noted_of_idle h.active h.current _⟩

theorem Idle.change (h : r.Idle) (sources : Host.Sources) :
    (r.step e (.change sources)).Idle ∧ (r.step e (.change sources)).seen =
      r.seen ++ [⟨none, false, none, .placeholder⟩] := by
  have hidle : ({ r with sources } : Recital).Idle :=
    ⟨h.active, h.current, h.count, h.notStarted, h.moved, h.evaluated⟩
  exact ⟨hidle.noted rfl rfl, seen_noted_of_idle hidle.active hidle.current _⟩

theorem Playing.load (h : r.Playing propagation resource story) (id : String) :
    (r.step e (.load id)).Playing propagation resource story ∧ (r.step e (.load id)).seen =
      r.seen ++ [⟨some (.loaded (.ok .alreadyActive)), true, some resource, story.view⟩] := by
  have hstep : r.step e (.load id) = r.noted (some (.loaded (.ok .alreadyActive))) := by
    rw [step, h.plays.load]
  rw [hstep]
  exact ⟨h.noted rfl, seen_noted_of_plays h.plays _⟩

theorem Playing.input (h : r.Playing propagation resource story) (command : Command) :
    (r.step e (.input command)).Playing propagation resource (story.after command) ∧
      (r.step e (.input command)).seen = r.seen ++
        [⟨some (.handled .evaluated), true, some resource, (story.after command).view⟩] := by
  obtain ⟨c, hhandle, hplays, hcount⟩ := h.plays.handle command
  let moved := if r.controller.isMovedBy command then r.moved + 1 else r.moved
  have hstep : r.step e (.input command) =
      ({ r with controller := c, moved } : Recital).noted (some (.handled .evaluated)) := by
    rw [step, hhandle]
  rw [hstep]
  refine ⟨⟨hplays, ?_, ?_⟩, ?_⟩
  · rw [isStarted_noted]
    exact (congrArg (· || _) h.started).trans (Bool.true_or _)
  · have hbefore := h.count
    cases propagation with
    | push =>
      have hm := h.plays.isMovedBy command
      change c.board.count = 1 + moved
      change r.controller.board.count = 1 + r.moved at hbefore
      simp only [moved, hm]
      cases hs : story.isMovedBy command <;> simp [hs] at hcount ⊢ <;> omega
    | pull =>
      have heval : (({ r with controller := c, moved } : Recital).noted
          (some (.handled .evaluated))).further .pull = r.evaluated + 1 := evaluated_noted _ _
      change r.controller.board.count = 1 + r.evaluated at hbefore
      rw [heval]
      change c.board.count = _
      simp at hcount
      omega
  · exact seen_noted_of_plays hplays _

theorem Playing.change (h : r.Playing propagation resource story) (sources : Host.Sources) :
    (r.step e (.change sources)).Playing propagation resource story ∧
      (r.step e (.change sources)).seen =
        r.seen ++ [⟨none, true, some resource, story.view⟩] := by
  have hplaying : ({ r with sources } : Recital).Playing propagation resource story := by
    refine ⟨h.plays, h.started, h.count.trans ?_⟩
    cases propagation with
    | push => rfl
    | pull => rfl
  exact ⟨hplaying.noted rfl, seen_noted_of_plays hplaying.plays _⟩

theorem sources_step (r : Recital) (e : ScriptEngine) (turn : Turn) :
    (r.step e turn).sources =
      match turn with
      | .change sources => sources
      | _ => r.sources := by
  cases turn <;> rfl

/-! ## Every run -/

/-- The two cannot be told apart by what can be seen of them: both are idle, or both play the same
story. -/
structure Alike (p q : Recital) : Prop where
  sources : p.sources = q.sources
  seen : p.seen = q.seen
  state : p.Idle ∧ q.Idle ∨ ∃ resource story,
    p.Playing .push resource story ∧ q.Playing .pull resource story

theorem Alike.step (h : Alike p q) (baseUrl : Option String) (turn : Turn) :
    Alike (p.step ⟨.push, baseUrl⟩ turn) (q.step ⟨.pull, baseUrl⟩ turn) := by
  obtain ⟨hsources, hseen, hstate⟩ := h
  have hsources' : (p.step ⟨.push, baseUrl⟩ turn).sources =
      (q.step ⟨.pull, baseUrl⟩ turn).sources := by
    rw [sources_step, sources_step, hsources]
  rcases hstate with ⟨hp, hq⟩ | ⟨resource, story, hp, hq⟩
  · cases turn with
    | load id =>
      -- Both engines load the same tokens, or fail in the same way.
      cases he : (⟨.push, baseUrl⟩ : ScriptEngine).load p.sources id with
      | error err =>
        have he' : (⟨.pull, baseUrl⟩ : ScriptEngine).load q.sources id = .error err := by
          rw [← hsources, ← he]
          rfl
        obtain ⟨hp', hsp⟩ := hp.load_error he
        obtain ⟨hq', hsq⟩ := hq.load_error he'
        exact ⟨hsources', by rw [hsp, hsq, hseen], .inl ⟨hp', hq'⟩⟩
      | ok tokens =>
        have he' : (⟨.pull, baseUrl⟩ : ScriptEngine).load q.sources id = .ok tokens := by
          rw [← hsources, ← he]
          rfl
        obtain ⟨hp', hsp⟩ := hp.load_ok he
        obtain ⟨hq', hsq⟩ := hq.load_ok he'
        exact ⟨hsources', by rw [hsp, hsq, hseen], .inr ⟨id, _, hp', hq'⟩⟩
    | input command =>
      obtain ⟨hp', hsp⟩ := hp.input (e := ⟨.push, baseUrl⟩) command
      obtain ⟨hq', hsq⟩ := hq.input (e := ⟨.pull, baseUrl⟩) command
      exact ⟨hsources', by rw [hsp, hsq, hseen], .inl ⟨hp', hq'⟩⟩
    | change sources =>
      obtain ⟨hp', hsp⟩ := hp.change (e := ⟨.push, baseUrl⟩) sources
      obtain ⟨hq', hsq⟩ := hq.change (e := ⟨.pull, baseUrl⟩) sources
      exact ⟨hsources', by rw [hsp, hsq, hseen], .inl ⟨hp', hq'⟩⟩
  · cases turn with
    | load id =>
      obtain ⟨hp', hsp⟩ := hp.load (e := ⟨.push, baseUrl⟩) id
      obtain ⟨hq', hsq⟩ := hq.load (e := ⟨.pull, baseUrl⟩) id
      exact ⟨hsources', by rw [hsp, hsq, hseen], .inr ⟨resource, story, hp', hq'⟩⟩
    | input command =>
      obtain ⟨hp', hsp⟩ := hp.input (e := ⟨.push, baseUrl⟩) command
      obtain ⟨hq', hsq⟩ := hq.input (e := ⟨.pull, baseUrl⟩) command
      exact ⟨hsources', by rw [hsp, hsq, hseen], .inr ⟨resource, story.after command, hp', hq'⟩⟩
    | change sources =>
      obtain ⟨hp', hsp⟩ := hp.change (e := ⟨.push, baseUrl⟩) sources
      obtain ⟨hq', hsq⟩ := hq.change (e := ⟨.pull, baseUrl⟩) sources
      exact ⟨hsources', by rw [hsp, hsq, hseen], .inr ⟨resource, story, hp', hq'⟩⟩

theorem alike_run (baseUrl : Option String) (sources : Host.Sources) (turns : List Turn) :
    Alike (run ⟨.push, baseUrl⟩ sources turns) (run ⟨.pull, baseUrl⟩ sources turns) := by
  have hfresh : (⟨sources, .fresh, [], 0⟩ : Recital).Idle := ⟨rfl, rfl, rfl, rfl, rfl, rfl⟩
  have hrun : ∀ p q : Recital, Alike p q →
      Alike (turns.foldl (Recital.step ⟨.push, baseUrl⟩) p)
        (turns.foldl (Recital.step ⟨.pull, baseUrl⟩) q) := by
    induction turns with
    | nil => exact fun _ _ h => h
    | cons turn rest ih => exact fun _ _ h => ih _ _ (h.step baseUrl turn)
  exact hrun _ _ ⟨rfl, rfl, .inl ⟨hfresh, hfresh⟩⟩

theorem Idle.count_eq (h : r.Idle) (propagation : Propagation) :
    r.controller.board.count = if r.isStarted then 1 + r.further propagation else 0 := by
  rw [h.notStarted]
  exact h.count

theorem Playing.count_eq (h : r.Playing propagation resource story) :
    r.controller.board.count = if r.isStarted then 1 + r.further propagation else 0 := by
  rw [h.started]
  exact h.count

/-- **Pushing and pulling cannot be told apart** by what is seen of a controller after each turn:
its answers, whether a story is loaded, its name, and the view. Nothing is published before a
session has been made. From then on a controller that is pushed to has published its first view and
one for each command that has moved the story on, and one that pulls has published its first view
and one for each command that a session has taken. -/
theorem push_agrees_with_pull (baseUrl : Option String) (sources : Host.Sources)
    (turns : List Turn) :
    (run ⟨.push, baseUrl⟩ sources turns).seen = (run ⟨.pull, baseUrl⟩ sources turns).seen ∧
    (run ⟨.push, baseUrl⟩ sources turns).controller.board.count =
      (if (run ⟨.push, baseUrl⟩ sources turns).isStarted then
        1 + (run ⟨.push, baseUrl⟩ sources turns).moved else 0) ∧
    (run ⟨.pull, baseUrl⟩ sources turns).controller.board.count =
      (if (run ⟨.pull, baseUrl⟩ sources turns).isStarted then
        1 + (run ⟨.pull, baseUrl⟩ sources turns).evaluated else 0) := by
  obtain ⟨-, hseen, hstate⟩ := alike_run baseUrl sources turns
  rcases hstate with ⟨hp, hq⟩ | ⟨resource, story, hp, hq⟩
  · exact ⟨hseen, hp.count_eq .push, hq.count_eq .pull⟩
  · exact ⟨hseen, hp.count_eq, hq.count_eq⟩

end Recital

end StoryPlayer
