import Mathlib
import StoryPlayer.Proofs.Controller.Propagation

/-!
# A failed load leaves no trace

A controller of scripts that could not load any story is as good as new. Whatever is done with it from
then on, it answers as a new controller does, and everything that can be seen of it, by those who ask
it and by a reader who has been there from the start, is what would be seen of a new one.

* `Showing.Alike.take`: two controllers that cannot be told apart, and one move.
* `Showing.idle_after`: what is left after failures.
* `Showing.glimpses_after_failures`: any moves after any failures.
-/

namespace StoryPlayer

/-- A controller of scripts with a reader of what it shows. -/
structure Showing where
  /-- What can be read at the time. -/
  sources : Host.Sources
  controller : Controller ScriptSession
  reader : Reader

/-- What can happen to a controller and its reader, one thing after another. -/
inductive Move where
  | turn (t : Turn)
  /-- The reader looks at what is shown. -/
  | look

/-- What can be seen after a move, how often something has been published, and whether the reader has
yet to see it. -/
structure Glimpse extends Sight where
  count : Nat
  hasNews : Bool

/-- Whether the move was a load that did not fail. -/
def Glimpse.isLoad (g : Glimpse) : Bool :=
  match g.answer with
  | some (.loaded (.ok _)) => true
  | _ => false

namespace Showing

/-- A new controller, with a reader from the start. -/
def opened (sources : Host.Sources) : Showing := ⟨sources, .fresh, .subscribe .fresh⟩

/-- What can be seen after a move with this answer. -/
def glimpse (s : Showing) (answer : Option Answer) : Glimpse where
  answer := answer
  isLoaded := s.controller.isLoaded
  resource? := s.controller.resource?
  current := s.controller.board.current
  count := s.controller.board.count
  hasNews := s.reader.hasNews s.controller.board

def take (e : ScriptEngine) (s : Showing) : Move → Showing × Option Answer
  | .turn (.load id) =>
    let (controller, result) := s.controller.load (e.engine s.sources) id
    ({ s with controller }, some (.loaded result))
  | .turn (.input command) =>
    let (controller, outcome) := s.controller.handle command
    ({ s with controller }, some (.handled outcome))
  | .turn (.change sources) => ({ s with sources }, none)
  | .look => ({ s with reader := .subscribe s.controller.board }, none)

def after (e : ScriptEngine) (s : Showing) (moves : List Move) : Showing :=
  moves.foldl (fun s m => (s.take e m).1) s

/-- What can be seen after each of some moves. -/
def glimpses (e : ScriptEngine) (s : Showing) : List Move → List Glimpse
  | [] => []
  | m :: rest => (s.take e m).1.glimpse (s.take e m).2 :: glimpses e (s.take e m).1 rest

/-! ## Two that cannot be told apart -/

/-- Neither has a session, or both play the same story; they show the same, and have shown as much. -/
structure Alike (p : Propagation) (s s' : Showing) : Prop where
  sources : s.sources = s'.sources
  reader : s.reader = s'.reader
  count : s.controller.board.count = s'.controller.board.count
  current : s.controller.board.current = s'.controller.board.current
  state : s.controller.active = none ∧ s'.controller.active = none ∨
    ∃ resource story, s.controller.Plays p resource story ∧ s'.controller.Plays p resource story

variable {e : ScriptEngine} {p : Propagation} {s s' : Showing}

theorem Alike.glimpse (h : Alike p s s') (answer : Option Answer) :
    s.glimpse answer = s'.glimpse answer := by
  have hloaded : s.controller.isLoaded = s'.controller.isLoaded ∧
      s.controller.resource? = s'.controller.resource? := by
    rcases h.state with ⟨hs, hs'⟩ | ⟨resource, story, hs, hs'⟩
    · simp only [Controller.isLoaded, Controller.resource?, hs, hs', and_self]
    · exact ⟨hs.isLoaded.trans hs'.isLoaded.symm, hs.resource?.trans hs'.resource?.symm⟩
  simp only [Showing.glimpse, Reader.hasNews, hloaded, h.reader, h.count, h.current]

theorem Alike.load (h : Alike e.propagation s s') (id : String) :
    (s.take e (.turn (.load id))).2 = (s'.take e (.turn (.load id))).2 ∧
      Alike e.propagation (s.take e (.turn (.load id))).1 (s'.take e (.turn (.load id))).1 := by
  rcases h.state with ⟨hs, hs'⟩ | ⟨resource, story, hs, hs'⟩
  · -- Both read the same sources, so both loads fail or both succeed.
    cases hload : e.load s.sources id with
    | error err =>
      have hload' : e.load s'.sources id = .error err := h.sources ▸ hload
      obtain ⟨c, hc, hactive, hpub⟩ := Controller.load_script_error hs hload
      obtain ⟨c', hc', hactive', hpub'⟩ := Controller.load_script_error hs' hload'
      rw [take, take, hc, hc']
      refine ⟨rfl, h.sources, h.reader, ?_, ?_, .inl ⟨hactive, hactive'⟩⟩
      · rw [hpub.count, hpub'.count, h.count]
      · rw [hpub.current, hpub'.current]
        exact h.current
    | ok tokens =>
      have hload' : e.load s'.sources id = .ok tokens := h.sources ▸ hload
      obtain ⟨c, hc, hplays, hpub⟩ := Controller.load_script_ok hs hload
      obtain ⟨c', hc', hplays', hpub'⟩ := Controller.load_script_ok hs' hload'
      rw [take, take, hc, hc']
      refine ⟨rfl, h.sources, h.reader, ?_, ?_, .inr ⟨_, _, hplays, hplays'⟩⟩
      · rw [hpub.count, hpub'.count, h.count]
      · rw [hplays.current, hplays'.current]
  · rw [take, take, hs.load, hs'.load]
    exact ⟨rfl, h⟩

theorem Alike.input (h : Alike p s s') (command : Command) :
    (s.take e (.turn (.input command))).2 = (s'.take e (.turn (.input command))).2 ∧
      Alike p (s.take e (.turn (.input command))).1 (s'.take e (.turn (.input command))).1 := by
  rcases h.state with ⟨hs, hs'⟩ | ⟨resource, story, hs, hs'⟩
  · rw [take, take, Controller.handle_of_none hs, Controller.handle_of_none hs']
    exact ⟨rfl, h⟩
  · obtain ⟨c, hc, hplays, hcount⟩ := hs.handle command
    obtain ⟨c', hc', hplays', hcount'⟩ := hs'.handle command
    rw [take, take, hc, hc']
    refine ⟨rfl, h.sources, h.reader, ?_, ?_, .inr ⟨_, _, hplays, hplays'⟩⟩
    · rw [hcount, hcount', h.count]
    · rw [hplays.current, hplays'.current]

/-- **One move** is answered alike and leaves them alike. -/
theorem Alike.take (h : Alike e.propagation s s') (m : Move) :
    (s.take e m).2 = (s'.take e m).2 ∧
      Alike e.propagation (s.take e m).1 (s'.take e m).1 := by
  cases m with
  | look =>
    refine ⟨rfl, h.sources, ?_, h.count, h.current, h.state⟩
    exact congrArg Reader.mk h.count
  | turn t =>
    cases t with
    | load id => exact h.load id
    | input command => exact h.input command
    | change sources => exact ⟨rfl, rfl, h.reader, h.count, h.current, h.state⟩

theorem Alike.glimpses (h : Alike e.propagation s s') (moves : List Move) :
    s.glimpses e moves = s'.glimpses e moves := by
  induction moves generalizing s s' with
  | nil => rfl
  | cons m rest ih =>
    obtain ⟨hanswer, hnext⟩ := h.take m
    rw [Showing.glimpses, Showing.glimpses, hanswer, hnext.glimpse, ih hnext]

/-! ## After failures -/

/-- Nothing has been loaded or shown. -/
structure Idle (s : Showing) : Prop where
  active : s.controller.active = none
  current : s.controller.board.current = .placeholder
  count : s.controller.board.count = 0
  reader : s.reader = ⟨0⟩

theorem Idle.take (h : s.Idle) {m : Move}
    (hm : ((s.take e m).1.glimpse (s.take e m).2).isLoad = false) : (s.take e m).1.Idle := by
  cases m with
  | look => exact ⟨h.active, h.current, h.count, congrArg Reader.mk h.count⟩
  | turn t =>
    cases t with
    | change sources => exact ⟨h.active, h.current, h.count, h.reader⟩
    | input command =>
      rw [Showing.take, Controller.handle_of_none h.active]
      exact h
    | load id =>
      cases hload : e.load s.sources id with
      | error err =>
        obtain ⟨c, hc, hactive, hpub⟩ := Controller.load_script_error h.active hload
        rw [Showing.take, hc]
        exact ⟨hactive, hpub.current.trans h.current, hpub.count.trans h.count, h.reader⟩
      | ok tokens =>
        obtain ⟨c, hc, -⟩ := Controller.load_script_ok h.active hload
        rw [Showing.take, hc] at hm
        cases hm

theorem Idle.after (h : s.Idle) {moves : List Move}
    (hm : ∀ g ∈ s.glimpses e moves, g.isLoad = false) : (s.after e moves).Idle := by
  induction moves generalizing s with
  | nil => exact h
  | cons m rest ih =>
    rw [Showing.glimpses, List.forall_mem_cons] at hm
    exact ih (h.take hm.1) hm.2

theorem idle_opened (sources : Host.Sources) : (opened sources).Idle := ⟨rfl, rfl, rfl, rfl⟩

theorem Idle.alike (h : s.Idle) (h' : s'.Idle) (hs : s.sources = s'.sources) (p : Propagation) :
    Alike p s s' where
  sources := hs
  reader := h.reader.trans h'.reader.symm
  count := h.count.trans h'.count.symm
  current := h.current.trans h'.current.symm
  state := .inl ⟨h.active, h'.active⟩

/-- Whether every load among some moves fails, over what can be read at its time. -/
def Fail (e : ScriptEngine) (sources : Host.Sources) : List Move → Prop
  | [] => True
  | .turn (.load id) :: rest => (∃ err, e.load sources id = .error err) ∧ Fail e sources rest
  | .turn (.change sources') :: rest => Fail e sources' rest
  | .turn (.input _) :: rest | .look :: rest => Fail e sources rest

theorem Idle.isLoad_eq_false (h : s.Idle) {moves : List Move} (hm : Fail e s.sources moves) :
    ∀ g ∈ s.glimpses e moves, g.isLoad = false := by
  induction moves generalizing s with
  | nil => exact fun g hg => absurd hg List.not_mem_nil
  | cons m rest ih =>
    have hfirst : ((s.take e m).1.glimpse (s.take e m).2).isLoad = false ∧
        Fail e (s.take e m).1.sources rest := by
      cases m with
      | look => exact ⟨rfl, hm⟩
      | turn t =>
        cases t with
        | change sources => exact ⟨rfl, hm⟩
        | input command => exact ⟨rfl, hm⟩
        | load id =>
          obtain ⟨⟨err, hload⟩, hrest⟩ := hm
          obtain ⟨c, hc, -⟩ := Controller.load_script_error h.active hload
          rw [Showing.take, hc]
          exact ⟨rfl, hrest⟩
    rw [Showing.glimpses, List.forall_mem_cons]
    exact ⟨hfirst.1, ih (h.take hfirst.1) hfirst.2⟩

/-- **A failed load leaves no trace.** After any moves of which no load has succeeded, further moves
are answered, and what is seen after each of them is, as if the controller and its reader were new. -/
theorem glimpses_after_failures (e : ScriptEngine) (sources : Host.Sources) (history : List Move)
    (hfailed : ∀ g ∈ (opened sources).glimpses e history, g.isLoad = false) (moves : List Move) :
    ((opened sources).after e history).glimpses e moves =
      (opened ((opened sources).after e history).sources).glimpses e moves := by
  have hidle := (idle_opened sources).after hfailed
  exact (hidle.alike (idle_opened _) rfl e.propagation).glimpses moves

/-! ### Four failures -/

/-- A disk on which every file is the same script, and a network on which nothing is found. -/
def scriptOnDisk (script : String) : Host.Sources :=
  ⟨fun _ => .ok (utf8 script), fun _ => .answer 404 []⟩

/-- No file and nothing on the network. -/
def nothingFound : Host.Sources := ⟨fun _ => .error .noEntry, fun _ => .answer 404 []⟩

theorem load_missing :
    (⟨.push, none⟩ : ScriptEngine).load nothingFound "a.ks" = .error (.fetch "a.ks" .noEntry) := by
  have hresolve : Location.resolve "a.ks" none = .path "a.ks" := by decide
  have hfetch : (Location.path "a.ks").fetch nothingFound = .error (.fetch "a.ks" .noEntry) := by
    cbv
  simp [ScriptEngine.load, hresolve, hfetch, bind, Except.bind]

theorem load_status :
    (⟨.push, none⟩ : ScriptEngine).load nothingFound "http://[::1]/a" =
      .error (.http "http://[::1]/a" (.status 404 "http://[::1]/a")) := by
  have hresolve : Location.resolve "http://[::1]/a" none = .url "http://[::1]/a" := by decide
  have htarget : Host.requestTarget "http://[::1]/a" = .ok "http://[::1]/a" := by cbv
  simp [ScriptEngine.load, hresolve, Location.fetch, Host.download, htarget, nothingFound, bind,
    Except.bind, Except.mapError]

theorem load_unclosed :
    (⟨.push, none⟩ : ScriptEngine).load (scriptOnDisk "[") "a.ks" =
      .error (.parse "a.ks" ⟨1, .unterminatedTag ""⟩) := by
  have hresolve : Location.resolve "a.ks" none = .path "a.ks" := by decide
  have hfetch : (Location.path "a.ks").fetch (scriptOnDisk "[") = .ok "[" := by cbv
  have hparse : Script.parse "[" = .error ⟨1, .unterminatedTag ""⟩ := by cbv
  simp [ScriptEngine.load, hresolve, hfetch, hparse, bind, Except.bind, Except.mapError,
    Location.display]

theorem load_empty :
    (⟨.push, none⟩ : ScriptEngine).load (scriptOnDisk ";") "a.ks" =
      .error (.emptyScript "a.ks") := by
  have hresolve : Location.resolve "a.ks" none = .path "a.ks" := by decide
  have hfetch : (Location.path "a.ks").fetch (scriptOnDisk ";") = .ok ";" := by cbv
  have hparse : Script.parse ";" = .ok [] := by cbv
  simp [ScriptEngine.load, hresolve, hfetch, hparse, bind, Except.bind, Except.mapError,
    Location.display]

def fourFailures : List Move :=
  [.turn (.load "a.ks"), .turn (.input .pointer), .turn (.load "http://[::1]/a"),
    .turn (.change (scriptOnDisk "[")), .turn (.load "a.ks"), .look,
    .turn (.change (scriptOnDisk ";")), .turn (.load "a.ks")]

/-- At last there is a script to be played. -/
def secondTry : List Move :=
  [.turn (.change (scriptOnDisk "a[pg]b")), .turn (.load "a.ks"), .look,
    .turn (.input (.key "Enter"))]

/-- A file that is missing, one that the network does not have, one that is no script and one that is
empty leave nothing behind. -/
theorem glimpses_after_four_failures :
    (∀ g ∈ (opened nothingFound).glimpses ⟨.push, none⟩ fourFailures, g.isLoad = false) ∧
    ((opened nothingFound).after ⟨.push, none⟩ fourFailures).glimpses ⟨.push, none⟩ secondTry =
      (opened (scriptOnDisk ";")).glimpses ⟨.push, none⟩ secondTry := by
  have hfail : Fail ⟨.push, none⟩ nothingFound fourFailures :=
    ⟨⟨_, load_missing⟩, ⟨_, load_status⟩, ⟨_, load_unclosed⟩, ⟨_, load_empty⟩, trivial⟩
  have hfailed := (idle_opened nothingFound).isLoad_eq_false hfail
  exact ⟨hfailed, glimpses_after_failures ⟨.push, none⟩ nothingFound fourFailures hfailed secondTry⟩

end Showing

end StoryPlayer
