import StoryPlayer.Dispatcher.Rehearsal

/-!
# Bindings, listeners and deliveries

A dispatcher is bound, unbound and given events in any order, over a surface that may refuse to attach
its listeners and may fail to detach them. The surface is asked for listeners only when there are
none, and every listener that it has attached is detached again. What a sink receives is what the
events carry that come while it is bound.

Operations are kept latest first, as the deeds of a board are.

* `Switchboard.asked`: what an operation asks of the surface.
* `Switchboard.inForce`: the binding in force, told by the answers of the surface.
* `Switchboard.accounted`: any operations over any surface.
-/

namespace StoryPlayer

open Device (Event Trigger)

/-! ## Surfaces that are watched -/

/-- A call that a surface has received, and how it has answered. -/
inductive SurfaceCall where
  | attach (result : Except SurfaceError Trigger)
  | detach (result : Except SurfaceError Unit)

namespace SurfaceCall

/-- Whether listeners have been attached. -/
def isAttached : SurfaceCall → Bool
  | .attach (.ok _) => true
  | _ => false

/-- Whether listeners have been detached, as far as that went. -/
def isDetach : SurfaceCall → Bool
  | .attach _ => false
  | .detach _ => true

end SurfaceCall

/-- A surface with the calls that it has received, in order. -/
structure WatchedSurface (σ : Type) where
  surface : σ
  calls : List SurfaceCall

instance {σ : Type} [Surface σ] : Surface (WatchedSurface σ) where
  attach w :=
    ((Surface.attach w.surface).1,
      ⟨(Surface.attach w.surface).2, w.calls ++ [.attach (Surface.attach w.surface).1]⟩)
  detach w :=
    ((Surface.detach w.surface).1,
      ⟨(Surface.detach w.surface).2, w.calls ++ [.detach (Surface.detach w.surface).1]⟩)

/-! ## Dispatchers in use -/

/-- What can be done with a dispatcher. -/
inductive Handling (κ : Type) where
  | bind (sink : κ)
  | unbind
  /-- Ask for the command that an event carries. -/
  | translate (e : Event)
  | dispatch (e : Event)

/-- A dispatcher with what its sinks have received, in order. -/
structure Switchboard (σ κ : Type) where
  dispatcher : Dispatcher (WatchedSurface σ) κ
  deliveries : List (κ × Command)

namespace Switchboard

variable {σ κ : Type}

/-- A dispatcher over a surface that has not been asked for anything. -/
def idle (surface : σ) : Switchboard σ κ := ⟨.unbound ⟨surface, []⟩, []⟩

def isBound (s : Switchboard σ κ) : Bool := s.dispatcher.isBound

/-- The calls that the surface has received. -/
def calls (s : Switchboard σ κ) : List SurfaceCall := s.dispatcher.surface.calls

variable [Surface σ]

def after (s : Switchboard σ κ) : Handling κ → Switchboard σ κ
  | .bind sink => { s with dispatcher := (s.dispatcher.bind sink).2 }
  | .unbind => { s with dispatcher := s.dispatcher.unbind }
  | .translate _ => s
  | .dispatch e => { s with deliveries := s.deliveries ++ (s.dispatcher.deliver? e).toList }

/-- What an operation asks of the surface. -/
def asked (s : Switchboard σ κ) (h : Handling κ) : List SurfaceCall :=
  (s.after h).calls.drop s.calls.length

/-- A dispatcher after some operations, latest first. -/
def ofHistory (surface : σ) : List (Handling κ) → Switchboard σ κ
  | [] => idle surface
  | h :: past => (ofHistory surface past).after h

/-- The calls that the surface has received when the dispatcher has been given up. -/
def finalCalls (s : Switchboard σ κ) : List SurfaceCall := s.dispatcher.release.calls

/-! ## What the history tells -/

/-- The binding in force: the last one for which the surface has attached its listeners, unless there
has been an `unbind` since. -/
def inForce (surface : σ) : List (Handling κ) → Option (Route κ)
  | [] => none
  | .unbind :: _ => none
  | .bind sink :: past =>
    match (ofHistory surface past).asked (.bind sink) with
    | [.attach (.ok trigger)] => some ⟨sink, trigger⟩
    | _ => inForce surface past
  | _ :: past => inForce surface past

/-- What the events carry that have been dispatched, each for the sink of the binding that was in
force. -/
def carried (surface : σ) : List (Handling κ) → List (κ × Command)
  | [] => []
  | .dispatch e :: past =>
    carried surface past ++
      ((inForce surface past).bind fun r => (e.command? r.trigger).map (r.sink, ·)).toList
  | _ :: past => carried surface past

/-! ## One operation -/

variable {s : Switchboard σ κ} {sink : κ} {r : Route κ}

omit [Surface σ] in
theorem isBound_eq_false_iff : s.isBound = false ↔ s.dispatcher.route = none := by
  rw [isBound, Dispatcher.isBound, Option.isSome_eq_false_iff, Option.isNone_iff_eq_none]

omit [Surface σ] in
theorem isBound_eq_true_iff : s.isBound = true ↔ ∃ r, s.dispatcher.route = some r := by
  rw [isBound, Dispatcher.isBound, Option.isSome_iff_exists]

theorem after_bind_of_bound (h : s.dispatcher.route = some r) (sink : κ) :
    s.after (.bind sink) = s := by
  simp only [after, Dispatcher.bind, h]

theorem after_unbind_of_unbound (h : s.dispatcher.route = none) : s.after .unbind = s := by
  simp only [after, Dispatcher.unbind, h]

/-- An unbound dispatcher asks for listeners, and is bound if it gets them. -/
theorem bind_of_unbound (h : s.dispatcher.route = none) (sink : κ) :
    ∃ result surface, s.dispatcher.bind sink =
      (result.map fun _ => (), ⟨⟨surface, s.calls ++ [.attach result]⟩,
        result.toOption.map fun trigger => ⟨sink, trigger⟩⟩) := by
  obtain ⟨result, surface, hattach⟩ : ∃ result surface,
      Surface.attach s.dispatcher.surface =
        (result, (⟨surface, s.calls ++ [.attach result]⟩ : WatchedSurface σ)) := ⟨_, _, rfl⟩
  refine ⟨result, surface, ?_⟩
  rw [Dispatcher.bind, h]
  simp only [hattach]
  cases result with
  | error e => rfl
  | ok trigger => rfl

/-- A bound dispatcher detaches its listeners and is unbound, whatever the surface answers. -/
theorem unbind_of_bound (h : s.dispatcher.route = some r) :
    ∃ result surface, s.dispatcher.unbind = ⟨⟨surface, s.calls ++ [.detach result]⟩, none⟩ := by
  refine ⟨(Surface.detach s.dispatcher.surface.surface).1,
    (Surface.detach s.dispatcher.surface.surface).2, ?_⟩
  rw [Dispatcher.unbind, h]
  rfl

/-- All that an operation can do to the binding and ask of the surface. -/
inductive Change (s : Switchboard σ κ) : Handling κ → List SurfaceCall → Option (Route κ) → Prop
  | attached {sink : κ} {trigger : Trigger} (unbound : s.dispatcher.route = none) :
      Change s (.bind sink) [.attach (.ok trigger)] (some ⟨sink, trigger⟩)
  | refused {sink : κ} {e : SurfaceError} (unbound : s.dispatcher.route = none)
      (answer : (s.dispatcher.bind sink).1 = .error e) :
      Change s (.bind sink) [.attach (.error e)] none
  | kept {sink : κ} {r : Route κ} (bound : s.dispatcher.route = some r) :
      Change s (.bind sink) [] (some r)
  | detached {r : Route κ} {result : Except SurfaceError Unit}
      (bound : s.dispatcher.route = some r) : Change s .unbind [.detach result] none
  | unbound (unbound : s.dispatcher.route = none) : Change s .unbind [] none
  | translated {e : Event} : Change s (.translate e) [] s.dispatcher.route
  | dispatched {e : Event} : Change s (.dispatch e) [] s.dispatcher.route

theorem exists_change (s : Switchboard σ κ) (h : Handling κ) :
    ∃ asked, (s.after h).calls = s.calls ++ asked ∧
      s.Change h asked (s.after h).dispatcher.route := by
  cases h with
  | bind sink =>
    cases hs : s.dispatcher.route with
    | some r =>
      refine ⟨[], ?_⟩
      rw [after_bind_of_bound hs, List.append_nil, hs]
      exact ⟨rfl, .kept hs⟩
    | none =>
      obtain ⟨result, surface, hbind⟩ := bind_of_unbound hs sink
      refine ⟨[.attach result], ?_⟩
      rw [after, hbind]
      cases result with
      | error e => exact ⟨rfl, .refused hs (by rw [hbind]; rfl)⟩
      | ok trigger => exact ⟨rfl, .attached hs⟩
  | unbind =>
    cases hs : s.dispatcher.route with
    | none =>
      refine ⟨[], ?_⟩
      rw [after_unbind_of_unbound hs, List.append_nil, hs]
      exact ⟨rfl, .unbound hs⟩
    | some r =>
      obtain ⟨result, surface, hunbind⟩ := unbind_of_bound hs
      refine ⟨[.detach result], ?_⟩
      rw [after, hunbind]
      exact ⟨rfl, .detached hs⟩
  | translate e => exact ⟨[], (List.append_nil _).symm, .translated⟩
  | dispatch e => exact ⟨[], (List.append_nil _).symm, .dispatched⟩

/-- **All that an operation can do.** -/
theorem change_after (s : Switchboard σ κ) (h : Handling κ) :
    (s.after h).calls = s.calls ++ s.asked h ∧
      s.Change h (s.asked h) (s.after h).dispatcher.route := by
  obtain ⟨asked, hcalls, hchange⟩ := exists_change s h
  have hasked : s.asked h = asked := by rw [Switchboard.asked, hcalls, List.drop_left]
  rw [hasked]
  exact ⟨hcalls, hchange⟩

/-! ## Any operations -/

variable {surface : σ} {past : List (Handling κ)}

/-- The binding in force is the one that the dispatcher has. -/
theorem inForce_eq (surface : σ) (past : List (Handling κ)) :
    inForce surface past = (ofHistory surface past).dispatcher.route := by
  induction past with
  | nil => rfl
  | cons h past ih =>
    have hchange := (change_after (ofHistory surface past) h).2
    rw [ofHistory]
    generalize hasked : (ofHistory surface past).asked h = asked at hchange
    generalize ((ofHistory surface past).after h).dispatcher.route = route at hchange ⊢
    cases hchange with
    | attached unbound => rw [inForce, hasked]
    | refused unbound =>
      rw [inForce, hasked]
      exact ih.trans unbound
    | kept bound =>
      rw [inForce, hasked]
      exact ih.trans bound
    | detached bound => rfl
    | unbound unbound => rfl
    | translated => exact ih
    | dispatched => exact ih

theorem deliver?_eq (surface : σ) (past : List (Handling κ)) (e : Event) :
    (ofHistory surface past).dispatcher.deliver? e =
      (inForce surface past).bind fun r => (e.command? r.trigger).map (r.sink, ·) := by
  rw [inForce_eq]
  rfl

theorem deliveries_eq (surface : σ) (past : List (Handling κ)) :
    (ofHistory surface past).deliveries = carried surface past := by
  induction past with
  | nil => rfl
  | cons h past ih =>
    cases h with
    | dispatch e => rw [ofHistory, after, carried, ih, deliver?_eq]
    | _ => exact ih

/-- Listeners are asked for only while there are none. -/
theorem Change.route_eq_none {h : Handling κ} {asked : List SurfaceCall} {route : Option (Route κ)}
    (c : s.Change h asked route) {result : Except SurfaceError Trigger}
    (hm : .attach result ∈ asked) : s.dispatcher.route = none := by
  cases c with
  | attached unbound => exact unbound
  | refused unbound => exact unbound
  | detached bound => simp at hm
  | _ => cases hm

/-- They are given back only while there are some. -/
theorem Change.exists_route {h : Handling κ} {asked : List SurfaceCall} {route : Option (Route κ)}
    (c : s.Change h asked route) {result : Except SurfaceError Unit}
    (hm : .detach result ∈ asked) : ∃ r, s.dispatcher.route = some r := by
  cases c with
  | detached bound => exact ⟨_, bound⟩
  | attached unbound => simp at hm
  | refused unbound => simp at hm
  | _ => cases hm

/-- What is attached and not detached again is bound. -/
theorem Change.balance {h : Handling κ} {asked : List SurfaceCall} {route : Option (Route κ)}
    (c : s.Change h asked route) :
    asked.countP SurfaceCall.isAttached + s.dispatcher.route.isSome.toNat =
      asked.countP SurfaceCall.isDetach + route.isSome.toNat := by
  cases c with
  | attached unbound => rw [unbound]; rfl
  | refused unbound => rw [unbound]; rfl
  | kept bound => rw [bound]; rfl
  | detached bound => rw [bound]; rfl
  | unbound unbound => rw [unbound]; rfl
  | translated => rfl
  | dispatched => rfl

theorem balance (surface : σ) (past : List (Handling κ)) :
    (ofHistory surface past).calls.countP SurfaceCall.isAttached =
      (ofHistory surface past).calls.countP SurfaceCall.isDetach +
        (ofHistory surface past).isBound.toNat := by
  induction past with
  | nil => rfl
  | cons h past ih =>
    obtain ⟨hcalls, hchange⟩ := change_after (ofHistory surface past) h
    have hbalance := hchange.balance
    rw [ofHistory, hcalls, List.countP_append, List.countP_append]
    rw [isBound, Dispatcher.isBound] at ih ⊢
    omega

/-- Giving a dispatcher up detaches its listeners, if it is bound. -/
theorem finalCalls_eq (s : Switchboard σ κ) : s.finalCalls = (s.after .unbind).calls := rfl

/-- What the surface has been asked, and what the sinks have received. -/
structure Accounted (surface : σ) (past : List (Handling κ)) : Prop where
  /-- One pair of listeners is attached while the dispatcher is bound, and none otherwise. -/
  balance : (ofHistory surface past).calls.countP SurfaceCall.isAttached =
    (ofHistory surface past).calls.countP SurfaceCall.isDetach +
      (ofHistory surface past).isBound.toNat
  /-- Every call is asked for by an operation. -/
  calls : ∀ h, (ofHistory surface (h :: past)).calls =
    (ofHistory surface past).calls ++ (ofHistory surface past).asked h
  /-- Listeners are asked for only while there are none, -/
  attach : ∀ h result, .attach result ∈ (ofHistory surface past).asked h →
    (ofHistory surface past).isBound = false
  /-- and given back only while there are some. -/
  detach : ∀ h result, .detach result ∈ (ofHistory surface past).asked h →
    (ofHistory surface past).isBound = true
  /-- While the dispatcher is not bound, every `bind` asks for listeners, once. It is bound if it gets
  them, and else it remains unbound and tells why. -/
  bind : (ofHistory surface past).isBound = false → ∀ sink, ∃ result,
    (ofHistory surface past).asked (.bind sink) = [.attach result] ∧
      ((ofHistory surface past).dispatcher.bind sink).1 = (result.map fun _ => ()) ∧
      (ofHistory surface (.bind sink :: past)).dispatcher.route =
        result.toOption.map fun trigger => ⟨sink, trigger⟩
  /-- While it is bound, `bind` changes nothing. -/
  bound : (ofHistory surface past).isBound = true → ∀ sink,
    ((ofHistory surface past).dispatcher.bind sink).1 = .ok () ∧
      ofHistory surface (.bind sink :: past) = ofHistory surface past
  /-- When it is given up, everything that has been attached is detached. -/
  final : (ofHistory surface past).finalCalls.countP SurfaceCall.isDetach =
    (ofHistory surface past).finalCalls.countP SurfaceCall.isAttached
  /-- The binding that it has is the one in force. -/
  route : (ofHistory surface past).dispatcher.route = inForce surface past
  /-- The sinks have received what the events carry, in order, each from those that came while it was
  bound. -/
  deliveries : (ofHistory surface past).deliveries = carried surface past
  /-- While nothing is bound, events carry nothing. -/
  silent : (ofHistory surface past).isBound = false → ∀ e,
    (ofHistory surface past).dispatcher.command? e = none ∧
      ofHistory surface (.dispatch e :: past) = ofHistory surface past

/-- **Listeners and deliveries are accounted for,** over any surface and whatever has been done:
listeners are attached just while a sink is bound, and each sink has received the commands of the
events that came while it was. -/
theorem accounted (surface : σ) (past : List (Handling κ)) : Accounted surface past where
  balance := balance surface past
  calls := fun h => (change_after (ofHistory surface past) h).1
  attach := fun h _ hm =>
    isBound_eq_false_iff.mpr ((change_after (ofHistory surface past) h).2.route_eq_none hm)
  detach := fun h _ hm =>
    isBound_eq_true_iff.mpr ((change_after (ofHistory surface past) h).2.exists_route hm)
  bind := by
    intro hb sink
    obtain ⟨result, inner, hbind⟩ := bind_of_unbound (isBound_eq_false_iff.mp hb) sink
    refine ⟨result, ?_, ?_, ?_⟩
    · rw [asked, after, hbind]
      exact List.drop_left
    · rw [hbind]
    · rw [ofHistory, after, hbind]
  bound := by
    intro hb sink
    obtain ⟨r, hr⟩ := isBound_eq_true_iff.mp hb
    refine ⟨?_, after_bind_of_bound hr sink⟩
    rw [Dispatcher.bind, hr]
  final := by
    have hfinal := balance surface (.unbind :: past)
    have hunbound : (ofHistory surface (.unbind :: past)).isBound = false := by
      rw [isBound_eq_false_iff, ← inForce_eq]
      rfl
    rw [hunbound] at hfinal
    rw [finalCalls_eq]
    exact hfinal.symm
  route := (inForce_eq surface past).symm
  deliveries := deliveries_eq surface past
  silent := by
    intro hb e
    have hroute := isBound_eq_false_iff.mp hb
    refine ⟨?_, ?_⟩
    · rw [Dispatcher.command?, hroute]
      rfl
    · rw [ofHistory, after, Dispatcher.deliver?, hroute]
      simp

/-- The first sink that is bound receives everything, until there is an `unbind`. -/
example :
    carried (RehearsedSurface.steady .press) [.dispatch (.mouse (.down .left) 0 0), .unbind,
      .dispatch (.mouse (.down .left) 0 0), .bind 1, .dispatch (.key ⟨.enter, .none, .release⟩),
      .dispatch (.key ⟨.enter, .none, .press⟩), .bind 0] =
      [(0, .key "Enter"), (0, .pointer)] :=
  rfl

end Switchboard

end StoryPlayer
