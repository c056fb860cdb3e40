import StoryPlayer.App
import StoryPlayer.Dispatcher.Rehearsal
import StoryPlayer.Proofs.Controller.Commands
import Mathlib

/-!
# From events to the story

The events of a terminal go through a dispatcher to a controller of scripts. All that matters of them
is how many are advances: presses of the pointer, and the keys that move a story on. They take the
story through its turns, one each, and every other event leaves it where it is.

* `Device.isAdvancing_name`: the names of keys agree with the names that move a story on.
* `Seat.Reached.take`: one event.
* `Seat.onlyAdvancesCount_run`: any events.
-/

namespace StoryPlayer

open Device (Event KeyCode Trigger)

/-! ## Advances -/

namespace Device

/-- The keys that move a story on. -/
def advancingKeys : List KeyCode := [.enter, .char ' ', .right, .down, .pageDown]

/-- A key moves a story on if it is one of these. No character but the blank is the name of another
advance, and function keys have names of their own. -/
theorem isAdvancing_name (code : KeyCode) :
    isAdvancing code.name = advancingKeys.contains code := by
  cases code with
  | char c => simp [isAdvancing, advancingNames, advancingKeys, KeyCode.name, ← String.toList_inj]
  | function n =>
    have hname : (KeyCode.function n).name = "F" ++ toString n.toNat := rfl
    simp [isAdvancing, advancingNames, advancingKeys, hname, ← String.toList_inj]
  | _ => rfl

namespace Event

/-- Whether an event carries a command: a press of the pointer, or a key event of the kind that gives
commands. -/
def isCommand (trigger : Trigger) : Event → Bool
  | .key k => k.kind = trigger.kind
  | .mouse kind _ _ => kind.isDown
  | _ => false

/-- Whether an event moves a story on: a press of the pointer, or a key event of that kind whose key
does. -/
def isAdvance (trigger : Trigger) : Event → Bool
  | .key k => k.kind = trigger.kind && advancingKeys.contains k.code
  | .mouse kind _ _ => kind.isDown
  | _ => false

variable {trigger : Trigger} {e : Event} {c : Command}

theorem not_command_of_eq_none (h : e.command? trigger = none) :
    e.isCommand trigger = false ∧ e.isAdvance trigger = false := by
  cases e with
  | key k =>
    have hk : k.kind ≠ trigger.kind := by
      intro hk
      rw [command?, if_pos hk] at h
      cases h
    simp [isCommand, isAdvance, hk]
  | mouse kind column row =>
    have hk : kind.isDown = false := by
      rw [← Bool.not_eq_true]
      intro hk
      rw [command?, if_pos hk] at h
      cases h
    exact ⟨hk, hk⟩
  | _ => exact ⟨rfl, rfl⟩

theorem command_of_eq_some (h : e.command? trigger = some c) :
    e.isCommand trigger = true ∧ e.isAdvance trigger = isAdvancing c.name := by
  cases e with
  | key k =>
    rw [command?] at h
    split at h
    · rename_i hk
      cases h
      rw [Command.name, isAdvancing_name, isCommand, isAdvance, decide_eq_true hk]
      exact ⟨rfl, rfl⟩
    · cases h
  | mouse kind column row =>
    rw [command?] at h
    split at h
    · rename_i hk
      cases h
      exact ⟨hk, hk⟩
    · cases h
  | _ => cases h

end Event

end Device

/-! ## Dispatching -/

namespace Dispatcher

variable {S κ σ : Type} [Session σ]

theorem deliver?_of_route {d : Dispatcher S κ} {r : Route κ} (hd : d.route = some r) (e : Event) :
    d.deliver? e = (e.command? r.trigger).map (r.sink, ·) := by
  rw [deliver?, hd, Option.bind_some]

/-- Hand an event to a controller, if it carries a command, and tell what has come of it. -/
def dispatch (d : Dispatcher S κ) (c : Controller σ) (e : Event) :
    Controller σ × Option InputOutcome :=
  match d.deliver? e with
  | some (_, command) => ((c.handle command).1, some (c.handle command).2)
  | none => (c, none)

/-- The views that the session pushes upon an event. -/
def pushes (d : Dispatcher S κ) (c : Controller σ) (e : Event) : List View :=
  match d.deliver? e with
  | some (_, command) => c.pushes command
  | none => []

end Dispatcher

/-- The full-screen player hands events to its controller in this way. -/
theorem App.controller_dispatch {σ : Type} [Session σ] (a : App σ) (e : Event) :
    (a.dispatch e).room.controller = (a.dispatcher.dispatch a.room.controller e).1 := by
  rw [App.dispatch, Dispatcher.dispatch]
  cases a.dispatcher.deliver? e with
  | none => rfl
  | some delivery => rfl

/-! ## Sequences of events -/

/-- A controller that takes events, with what has come of each of them and the views that have been
pushed. -/
structure Seat (σ : Type) where
  controller : Controller σ
  outcomes : List (Option InputOutcome)
  pushed : List View

namespace Seat

variable {S κ : Type}

def take {σ : Type} [Session σ] (d : Dispatcher S κ) (seat : Seat σ) (e : Event) : Seat σ where
  controller := (d.dispatch seat.controller e).1
  outcomes := seat.outcomes ++ [(d.dispatch seat.controller e).2]
  pushed := seat.pushed ++ d.pushes seat.controller e

/-- A controller after some events, one after another. -/
def run {σ : Type} [Session σ] (d : Dispatcher S κ) (c : Controller σ) (events : List Event) :
    Seat σ :=
  events.foldl (take d) ⟨c, [], []⟩

variable {d : Dispatcher S κ} {r : Route κ} {p : Propagation} {resource : String} {s : Story}
  {c : Controller ScriptSession} {seat : Seat ScriptSession} {n : Nat}

/-- The seat has come to turn `n` of a story, or to its last one. A session that pushes has pushed the
views up to there, after the first one, and nothing else has been published. -/
structure Reached (c : Controller ScriptSession) (p : Propagation) (resource : String) (s : Story)
    (n : Nat) (seat : Seat ScriptSession) : Prop where
  plays : seat.controller.Plays p resource (s.later n)
  pushed : seat.pushed = if p = .push then s.views.tail.take n else []
  publishes : p = .push → c.board.Publishes seat.pushed seat.controller.board

theorem take_tail_views (s : Story) (n : Nat) (command : Command) :
    s.views.tail.take n ++ Propagation.push.publishedUpon s.views n command =
      s.views.tail.take (turnAfter n command) := by
  rw [Propagation.publishedUpon, turnAfter]
  cases isAdvancing command.name with
  | false => simp
  | true => simp [List.take_add_one, List.getElem?_tail]

/-- **One event** takes the story to its next turn if it is an advance, and is answered if it is a
command. -/
theorem Reached.take (h : seat.Reached c p resource s n) (hd : d.route = some r) (e : Event) :
    (seat.take d e).Reached c p resource s (if e.isAdvance r.trigger then n + 1 else n) ∧
      (seat.take d e).outcomes = seat.outcomes ++
        [if e.isCommand r.trigger then some .evaluated else none] := by
  cases he : e.command? r.trigger with
  | none =>
    obtain ⟨hcommand, hadvance⟩ := Event.not_command_of_eq_none he
    have hdeliver : d.deliver? e = none := by rw [Dispatcher.deliver?_of_route hd, he]; rfl
    have htake : seat.take d e = { seat with outcomes := seat.outcomes ++ [none] } := by
      rw [Seat.take, Dispatcher.dispatch, Dispatcher.pushes, hdeliver, List.append_nil]
    rw [htake, hcommand, hadvance]
    exact ⟨⟨h.plays, h.pushed, h.publishes⟩, rfl⟩
  | some command =>
    obtain ⟨hcommand, hadvance⟩ := Event.command_of_eq_some he
    obtain ⟨c', hhandle, hplays, hpub⟩ := h.plays.handle_later command
    have hdeliver : d.deliver? e = some (r.sink, command) := by
      rw [Dispatcher.deliver?_of_route hd, he]
      rfl
    have hdispatch : d.dispatch seat.controller e = (c', some .evaluated) := by
      simp only [Dispatcher.dispatch, hdeliver, hhandle]
    have hpushes : d.pushes seat.controller e = seat.controller.pushes command := by
      rw [Dispatcher.pushes, hdeliver]
    have htake : seat.take d e = ⟨c', seat.outcomes ++ [some .evaluated],
        seat.pushed ++ seat.controller.pushes command⟩ := by
      rw [Seat.take, hdispatch, hpushes]
    rw [htake, hcommand, hadvance, ← turnAfter, h.plays.pushes_later]
    refine ⟨⟨hplays, ?_, ?_⟩, rfl⟩
    · rw [h.pushed]
      cases p with
      | pull => rfl
      | push => exact take_tail_views s n command
    · rintro rfl
      exact (h.publishes rfl).trans hpub

theorem run_concat (d : Dispatcher S κ) (c : Controller ScriptSession) (events : List Event)
    (e : Event) : run d c (events ++ [e]) = (run d c events).take d e := by
  rw [run, List.foldl_append]
  rfl

theorem reached_run (h : c.Plays p resource s) (hd : d.route = some r) (events : List Event) :
    (run d c events).Reached c p resource s (events.countP (·.isAdvance r.trigger)) ∧
      (run d c events).outcomes =
        events.map fun e => if e.isCommand r.trigger then some .evaluated else none := by
  induction events using List.reverseRecOn with
  | nil =>
    refine ⟨⟨h, ?_, fun _ => .refl _⟩, rfl⟩
    split
    · rfl
    · rfl
  | append_singleton events e ih =>
    obtain ⟨hreached, houtcomes⟩ := ih
    obtain ⟨hreached', houtcomes'⟩ := hreached.take hd e
    rw [run_concat, houtcomes', houtcomes, List.map_append, List.countP_append,
      List.countP_singleton]
    refine ⟨?_, rfl⟩
    cases he : e.isAdvance r.trigger with
    | false => rwa [he] at hreached'
    | true => rwa [he] at hreached'

/-- What some events come to with a controller of scripts that has loaded a story with these views. -/
structure OnlyAdvancesCount (d : Dispatcher S κ) (trigger : Trigger) (p : Propagation)
    (views : List View) (loaded : Controller ScriptSession) (events : List Event) : Prop where
  /-- The view that as many advances lead to is shown, or the last one. -/
  shown : views[min (events.countP (·.isAdvance trigger)) (views.length - 1)]? =
    some (run d loaded events).controller.board.current
  /-- Every command has been taken, and nothing else. -/
  outcomes : (run d loaded events).outcomes =
    events.map fun e => if e.isCommand trigger then some .evaluated else none
  /-- A session that pushes has pushed as many views as there were advances, in order and after the
  first one, as long as there were any. -/
  pushed : (run d loaded events).pushed =
    if p = .push then views.tail.take (events.countP (·.isAdvance trigger)) else []
  /-- They are what has been published. -/
  published : p = .push →
    loaded.board.Publishes (run d loaded events).pushed (run d loaded events).controller.board
  /-- Other events with as many advances show the same view. -/
  alike : ∀ others : List Event,
    others.countP (·.isAdvance trigger) = events.countP (·.isAdvance trigger) →
    (run d loaded others).controller.board.current =
      (run d loaded events).controller.board.current

/-- **Only the number of advances counts.** Once a controller has loaded a script, whatever events
are dispatched to it, the view that is shown is the one that as many advances lead to. -/
theorem onlyAdvancesCount_run {e : ScriptEngine} {sources : Host.Sources} {id : String}
    {tokens : List Script.Token} (hload : e.load sources id = .ok tokens) (hc : c.active = none)
    (hd : d.route = some r) (events : List Event) :
    (c.load (e.engine sources) id).2 = .ok .started ∧
    OnlyAdvancesCount d r.trigger e.propagation (Story.ofTokens tokens).run.views
      (c.load (e.engine sources) id).1 events := by
  obtain ⟨loaded, hloaded, hplays, -⟩ := Controller.load_script_ok hc hload
  have hshown (events : List Event) :
      (run d loaded events).controller.board.current =
        ((Story.ofTokens tokens).run.later (events.countP (·.isAdvance r.trigger))).view :=
    (reached_run hplays hd events).1.plays.current
  obtain ⟨hreached, houtcomes⟩ := reached_run hplays hd events
  rw [hloaded]
  refine ⟨rfl, ?_, houtcomes, hreached.pushed, hreached.publishes, ?_⟩
  · rw [hshown, Story.length_views, Nat.add_sub_cancel, Story.getElem?_views]
  · intro others ho
    rw [hshown, hshown, ho]

/-! ### Three pages -/

/-- A disk on which every file is a script of three pages. -/
def pagesOnDisk : Host.Sources := ⟨fun _ => .ok (utf8 "a[pg]b[pg]c"), .unreachable⟩

def pages : List Script.Token :=
  [.text "a", .tag (.named "pg"), .text "b", .tag (.named "pg"), .text "c"]

theorem load_pages : (⟨.push, none⟩ : ScriptEngine).load pagesOnDisk "a.ks" = .ok pages := by
  have hresolve : Location.resolve "a.ks" none = .path "a.ks" := by decide
  have hfetch : (Location.path "a.ks").fetch pagesOnDisk = .ok "a[pg]b[pg]c" := by cbv
  have hparse : Script.parse "a[pg]b[pg]c" = .ok pages := by cbv
  simp [ScriptEngine.load, hresolve, hfetch, hparse, pages, bind, Except.bind, Except.mapError,
    pure, Except.pure]

/-- A dispatcher bound to a terminal that reports no releases. -/
def bound : Dispatcher RehearsedSurface Unit := ((Dispatcher.unbound (.steady .press)).bind ()).2

/-- Two advances, the first of which is held, between a letter and a turn of the wheel. -/
def twoAdvances : List Event :=
  [.key ⟨.char 'x', .none, .press⟩, .key ⟨.char ' ', .none, .press⟩,
    .key ⟨.char ' ', .none, .repeated⟩, .mouse (.down .right) 3 4, .mouse .scrollDown 3 4]

/-- They lead to the last page. -/
theorem onlyAdvancesCount_run_of_three_pages :
    (⟨.push, none⟩ : ScriptEngine).load pagesOnDisk "a.ks" = .ok pages ∧
    (Controller.fresh : Controller ScriptSession).active = none ∧
    bound.route = some ⟨(), .press⟩ ∧
    twoAdvances.countP (·.isAdvance .press) = 2 ∧
    ((Controller.fresh : Controller ScriptSession).load
      ((⟨.push, none⟩ : ScriptEngine).engine pagesOnDisk) "a.ks").2 = .ok .started ∧
    OnlyAdvancesCount bound .press .push (Story.ofTokens pages).run.views
      ((Controller.fresh : Controller ScriptSession).load
        ((⟨.push, none⟩ : ScriptEngine).engine pagesOnDisk) "a.ks").1 twoAdvances := by
  have hroute : bound.route = some ⟨(), .press⟩ := rfl
  exact ⟨load_pages, rfl, hroute, by decide, onlyAdvancesCount_run load_pages rfl hroute twoAdvances⟩

end Seat

end StoryPlayer
