import StoryPlayer.Proofs.Controller.Outline
import StoryPlayer.Proofs.Controller.Reading
import StoryPlayer.Proofs.Controller.Steps

/-!
# Attempts are calls of the engine

A room notes when attempts begin and how they end. That these notes are true is proved here: the
attempt noted at a place is the call of the engine with that number and that story, it is under way
as long as something is left of the course that the engine has given it, and it is noted to end as
that course ends.

* `Loading.LeadsTo`: what is left of a course.
* `Room.Courses`: the notes are true of this engine.
* `Room.Courses.steps`, `Room.Courses.enters`, `Room.Courses.handle`: whatever happens.
-/

namespace StoryPlayer

/-! ## What is left of a course -/

/-- The second course is what is left of the first after some of its steps. -/
inductive Loading.LeadsTo {σ : Type} (course : Loading σ) : Loading σ → Prop
  | refl : LeadsTo course course
  | push {v : View} {next : Loading σ} (h : LeadsTo course (.push v next)) : LeadsTo course next
  | suspend {next : Loading σ} (h : LeadsTo course (.suspend next)) : LeadsTo course next

namespace Loading

variable {σ : Type} {course rest : Loading σ}

theorem LeadsTo.outcome (h : course.LeadsTo rest) : rest.outcome.2 = course.outcome.2 := by
  induction h with
  | refl => rfl
  | push _ ih => exact ih
  | suspend _ ih => exact ih

/-- A course that has come to its end ends like that. -/
theorem LeadsTo.result {result : Except LoadError σ} (h : course.LeadsTo (.ending result)) :
    course.outcome.2 = result := by
  rw [← h.outcome]
  cases result with
  | ok session => rfl
  | error e => rfl

end Loading

/-! ## How attempts have ended -/

namespace Milestone

def result? : Milestone → Option (CallerId × String × Except LoadError Unit)
  | .began _ _ => none
  | .ended caller resource result => some (caller, resource, result)

/-- The attempts that have ended, in order, and how. -/
def results (history : List Milestone) : List (CallerId × String × Except LoadError Unit) :=
  history.filterMap result?

theorem endings_eq (history : List Milestone) :
    endings history = (results history).map fun p => (p.1, p.2.1) := by
  rw [endings, results, List.map_filterMap]
  refine List.filterMap_congr fun m _ => ?_
  cases m with
  | began caller resource => rfl
  | ended caller resource result => rfl

theorem mem_results {history : List Milestone} {caller : CallerId} {resource : String}
    {result : Except LoadError Unit} :
    (caller, resource, result) ∈ results history ↔ .ended caller resource result ∈ history := by
  rw [results, List.mem_filterMap]
  constructor
  · rintro ⟨m, hm, hr⟩
    cases m with
    | began c r => cases hr
    | ended c r result' =>
      cases hr
      exact hm
  · intro h
    exact ⟨_, h, rfl⟩

@[simp] theorem results_concat_began (history : List Milestone) (caller : CallerId)
    (resource : String) : results (history ++ [.began caller resource]) = results history := by
  rw [results, List.filterMap_append]
  exact List.append_nil _

@[simp] theorem results_concat_ended (history : List Milestone) (caller : CallerId)
    (resource : String) (result : Except LoadError Unit) :
    results (history ++ [.ended caller resource result]) =
      results history ++ [(caller, resource, result)] := by
  rw [results, List.filterMap_append]
  rfl

end Milestone

open Milestone (beginnings endings results)

/-! ## The notes are true -/

/-- What a room has noted of attempts is true of this engine. -/
structure Room.Courses {σ : Type} (engine : Engine σ) (r : Room σ) : Prop where
  attempts : r.controller.attempts = (beginnings r.history).length
  /-- Attempts end in the order in which they begin, and the one under way is the last. -/
  inOrder : beginnings r.history =
    endings r.history ++ (r.running.map fun a => (a.caller, a.resource)).toList
  /-- An attempt ends as the course ends that the engine has given it. -/
  ended : ∀ k caller id result, (results r.history)[k]? = some (caller, id, result) →
    result = (engine.start k id).outcome.2.map fun _ => ()
  /-- The attempt under way follows the course that the engine has given it. -/
  underWay : ∀ a ∈ r.running, a.gate = (endings r.history).length ∧
    (engine.start a.gate a.resource).LeadsTo a.rest
  /-- The session is there because a course has ended with one. -/
  stored : ∀ a ∈ r.controller.active, ∃ caller session,
    (endings r.history)[a.gate]? = some (caller, a.resource) ∧
      (engine.start a.gate a.resource).outcome.2 = .ok session

namespace Room

variable {σ : Type} {engine : Engine σ} {r r' : Room σ} {a : Attempt σ}

theorem courses_ofController (engine : Engine σ) : (ofController .fresh : Room σ).Courses engine where
  attempts := rfl
  inOrder := rfl
  ended := nofun
  underWay := nofun
  stored := nofun

/-- Who waits and who has been answered does not matter. -/
theorem Courses.of_eq (h : r.Courses engine)
    (hcontroller : r'.controller = r.controller) (hrunning : r'.running = r.running)
    (hhistory : r'.history = r.history) : r'.Courses engine where
  attempts := by rw [hcontroller, hhistory, h.attempts]
  inOrder := by rw [hhistory, hrunning, h.inOrder]
  ended := by
    rw [hhistory]
    exact h.ended
  underWay := by
    rw [hhistory, hrunning]
    exact h.underWay
  stored := by
    rw [hcontroller, hhistory]
    exact h.stored

/-- An attempt begins with the course that the engine gives it. -/
theorem Courses.begin (h : r.Courses engine) (hr : r.running = none) (caller : CallerId)
    (resource : String) : (r.begin engine caller resource).Courses engine := by
  have horder : beginnings r.history = endings r.history := by
    have hall := h.inOrder
    rw [hr, Option.map_none, Option.toList_none, List.append_nil] at hall
    exact hall
  refine ⟨?_, ?_, ?_, ?_, ?_⟩
  · show r.controller.openAttempt.2.attempts = (beginnings (r.history ++ [_])).length
    rw [Controller.attempts_openAttempt, h.attempts, Milestone.beginnings_concat_began,
      List.length_append]
    rfl
  · show beginnings (r.history ++ [_]) = endings (r.history ++ [_]) ++ _
    rw [Milestone.beginnings_concat_began, Milestone.endings_concat_began, horder]
    rfl
  · intro k c id result hk
    change (results (r.history ++ [_]))[k]? = _ at hk
    rw [Milestone.results_concat_began] at hk
    exact h.ended k c id result hk
  · intro a ha
    cases ha
    refine ⟨?_, .refl⟩
    show r.controller.attempts = (endings (r.history ++ [_])).length
    rw [h.attempts, horder, Milestone.endings_concat_began]
  · intro a ha
    obtain ⟨c, session, hplace, hresult⟩ := h.stored a ha
    refine ⟨c, session, ?_, hresult⟩
    show (endings (r.history ++ [_]))[a.gate]? = _
    rw [Milestone.endings_concat_began]
    exact hplace

/-- The attempt under way goes on with its course. -/
theorem Courses.goOn (h : r.Courses engine) (hr : r.running = some a) {c : Controller σ}
    (hattempts : c.attempts = r.controller.attempts) (hactive : c.active = r.controller.active)
    {rest : Loading σ} (hrest : ∀ course : Loading σ, course.LeadsTo a.rest → course.LeadsTo rest) :
    ({ r with controller := c, running := some { a with rest } } : Room σ).Courses engine where
  attempts := hattempts.trans h.attempts
  inOrder := by
    have horder := h.inOrder
    rw [hr] at horder
    exact horder
  ended := h.ended
  underWay := by
    intro a' ha'
    cases ha'
    obtain ⟨hgate, hleads⟩ := h.underWay a hr
    exact ⟨hgate, hrest _ hleads⟩
  stored := by
    intro b hb
    exact h.stored b (hactive ▸ hb)

/-! ### What the notes tell -/

/-- What has ended began at the same place. -/
theorem Courses.begun (h : r.Courses engine) {k : Nat} {caller : CallerId} {id : String}
    {result : Except LoadError Unit} (hk : (results r.history)[k]? = some (caller, id, result)) :
    (beginnings r.history)[k]? = some (caller, id) := by
  have hending : (endings r.history)[k]? = some (caller, id) := by
    rw [Milestone.endings_eq, List.getElem?_map, hk]
    rfl
  obtain ⟨hlt, -⟩ := List.getElem?_eq_some_iff.mp hending
  rw [h.inOrder, List.getElem?_append_left hlt, hending]

/-- An attempt that has ended has done so as its course does. -/
theorem Courses.over (h : r.Courses engine) {k : Nat} {caller : CallerId} {id : String}
    (hk : (endings r.history)[k]? = some (caller, id)) :
    (results r.history)[k]? =
      some (caller, id, (engine.start k id).outcome.2.map fun _ => ()) := by
  rw [Milestone.endings_eq, List.getElem?_map, Option.map_eq_some_iff] at hk
  obtain ⟨⟨c, i, result⟩, hresult, hboth⟩ := hk
  cases hboth
  rw [hresult, ← h.ended k c i result hresult]

/-- An attempt that has begun is over, or has something of its course left. -/
theorem Courses.call (h : r.Courses engine) {k : Nat} {caller : CallerId} {id : String}
    (hk : (beginnings r.history)[k]? = some (caller, id)) :
    (results r.history)[k]? =
        some (caller, id, (engine.start k id).outcome.2.map fun _ => ()) ∨
      ∃ a ∈ r.running, a.caller = caller ∧ a.resource = id ∧ a.gate = k ∧
        (engine.start k id).LeadsTo a.rest := by
  rw [h.inOrder] at hk
  by_cases hlt : k < (endings r.history).length
  · rw [List.getElem?_append_left hlt] at hk
    exact .inl (h.over hk)
  · rw [List.getElem?_append_right (Nat.not_lt.mp hlt)] at hk
    cases hr : r.running with
    | none =>
      rw [hr] at hk
      cases hk
    | some a =>
      rw [hr] at hk
      obtain ⟨hbound, -⟩ := List.getElem?_eq_some_iff.mp hk
      have hk' : k = (endings r.history).length := by
        have hone : k - (endings r.history).length < 1 := hbound
        omega
      rw [hk', Nat.sub_self] at hk
      cases hk
      obtain ⟨hgate, hleads⟩ := h.underWay a hr
      have hplace : a.gate = k := hgate.trans hk'.symm
      exact .inr ⟨a, rfl, rfl, rfl, hplace, hplace ▸ hleads⟩

/-- An attempt is noted to end as its course does. -/
theorem Courses.exists_ended_iff (h : r.Courses engine) {caller : CallerId}
    {result : Except LoadError Unit} :
    (∃ id, .ended caller id result ∈ r.history) ↔
      ∃ k id, (endings r.history)[k]? = some (caller, id) ∧
        (engine.start k id).outcome.2.map (fun _ => ()) = result := by
  constructor
  · rintro ⟨id, hm⟩
    obtain ⟨k, hk⟩ := List.mem_iff_getElem?.mp (Milestone.mem_results.mpr hm)
    have hending : (endings r.history)[k]? = some (caller, id) := by
      rw [Milestone.endings_eq, List.getElem?_map, hk]
      rfl
    exact ⟨k, id, hending, (h.ended k caller id result hk).symm⟩
  · rintro ⟨k, id, hk, rfl⟩
    exact ⟨id, Milestone.mem_results.mp (List.mem_of_getElem? (h.over hk))⟩

/-- It succeeds if its course ends with a session, -/
theorem Courses.exists_succeeded_iff (h : r.Courses engine) {caller : CallerId} :
    (∃ id, .ended caller id (.ok ()) ∈ r.history) ↔
      ∃ k id session, (endings r.history)[k]? = some (caller, id) ∧
        (engine.start k id).outcome.2 = .ok session := by
  rw [h.exists_ended_iff]
  refine exists₂_congr fun k id => ?_
  cases (engine.start k id).outcome.2 with
  | error e => simp [Except.map]
  | ok session => simp [Except.map]

/-- and fails if its course does, for the same reason. -/
theorem Courses.exists_failed_iff (h : r.Courses engine) {caller : CallerId} {e : LoadError} :
    (∃ id, .ended caller id (.error e) ∈ r.history) ↔
      ∃ k id, (endings r.history)[k]? = some (caller, id) ∧
        (engine.start k id).outcome.2 = .error e := by
  rw [h.exists_ended_iff]
  refine exists₂_congr fun k id => ?_
  cases (engine.start k id).outcome.2 with
  | error e' => simp [Except.map]
  | ok session => simp [Except.map]

/-! ### Whatever happens -/

variable [Session σ]

/-- The attempt under way ends as its course does. -/
theorem Courses.finish (h : r.Courses engine) (hr : r.running = some a)
    {result : Except LoadError σ} (hrest : a.rest = .ending result) :
    (r.finish a result).Courses engine := by
  obtain ⟨hgate, hleads⟩ := h.underWay a hr
  have hresult : (engine.start a.gate a.resource).outcome.2 = result := (hrest ▸ hleads).result
  have hplace : (endings (r.history ++ [.ended a.caller a.resource (result.map fun _ => ())]))[a.gate]? =
      some (a.caller, a.resource) := by
    rw [Milestone.endings_concat_ended, hgate]
    exact List.getElem?_concat_length
  have horder := h.inOrder
  rw [hr] at horder
  refine ⟨?_, ?_, ?_, nofun, ?_⟩
  · show (r.controller.conclude a.gate a.resource result).1.attempts =
      (beginnings (r.history ++ [_])).length
    rw [(Controller.conclude_frame r.controller a.gate a.resource result).1,
      Milestone.beginnings_concat_ended, h.attempts]
  · show beginnings (r.history ++ [_]) = endings (r.history ++ [_]) ++ []
    rw [Milestone.beginnings_concat_ended, Milestone.endings_concat_ended, List.append_nil, horder]
    rfl
  · intro k c id result' hk
    change (results (r.history ++ [_]))[k]? = _ at hk
    rw [Milestone.results_concat_ended] at hk
    have hlength : (endings r.history).length = (results r.history).length := by
      rw [Milestone.endings_eq, List.length_map]
    by_cases hlt : k < (results r.history).length
    · rw [List.getElem?_append_left hlt] at hk
      exact h.ended k c id result' hk
    · -- The end that is noted last is that of the attempt that has been under way.
      obtain ⟨hbound, -⟩ := List.getElem?_eq_some_iff.mp hk
      rw [List.length_append, List.length_singleton] at hbound
      have hk' : k = a.gate := by
        rw [hgate, hlength]
        omega
      rw [hk', hgate, hlength, List.getElem?_concat_length] at hk
      cases hk
      rw [hk', hresult]
  · intro b hb
    cases result with
    | error e =>
      obtain ⟨c, session, hbefore, hsession⟩ := h.stored b hb
      refine ⟨c, session, ?_, hsession⟩
      show (endings (r.history ++ [_]))[b.gate]? = _
      rw [Milestone.endings_concat_ended]
      exact Outline.getElem?_concat_of_eq_some hbefore _
    | ok session =>
      cases hb
      exact ⟨a.caller, session, hplace, hresult⟩

/-- **Those who load** do what is noted of them. -/
theorem Courses.steps (h : r.Courses engine) (hs : r.Steps engine r') : r'.Courses engine := by
  cases hs with
  | idle => exact h
  | push running rest =>
    exact h.goOn running (Controller.attempts_push _ _ _) rfl fun _ hl => .push (rest ▸ hl)
  | suspend running rest => exact h.goOn running rfl rfl fun _ hl => .suspend (rest ▸ hl)
  | finish running rest => exact h.finish running rest
  | dismiss => exact h.of_eq rfl rfl rfl
  | @begin caller resource waiting running =>
    have hnext : ({ r with waiting } : Room σ).Courses engine := h.of_eq rfl rfl rfl
    exact hnext.begin running caller resource

omit [Session σ] in
/-- **A caller asks to load.** -/
theorem Courses.enters (h : r.Courses engine) {caller : CallerId} {resource : String}
    (he : r.Enters engine caller resource r') : r'.Courses engine := by
  cases he with
  | dismissed => exact h.of_eq rfl rfl rfl
  | waits => exact h.of_eq rfl rfl rfl
  | begins unloaded running => exact h.begin running caller resource

/-- **A command** is taken. -/
theorem Courses.handle (h : r.Courses engine) (command : Command) :
    ({ r with controller := (r.controller.handle command).1 } : Room σ).Courses engine where
  attempts := (Controller.handle_frame r.controller command).1.trans h.attempts
  inOrder := h.inOrder
  ended := h.ended
  underWay := h.underWay
  stored := by
    intro b hb
    change (r.controller.handle command).1.active = some b at hb
    rw [Controller.active_handle] at hb
    obtain ⟨a, ha, rfl⟩ := Option.map_eq_some_iff.mp hb
    exact h.stored a ha

end Room

end StoryPlayer
