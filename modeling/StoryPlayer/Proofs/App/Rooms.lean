import StoryPlayer.App
import StoryPlayer.Proofs.Controller.Reading
import StoryPlayer.Proofs.Controller.Steps

/-!
# The rooms of mounts

A mount makes a room for one caller, who asks for the story of the player.  When the mount is given
up, the room is left to itself, and as soon as nobody loads there it has neither a session nor a gate
through which anything could be published.

* `Room.Asks`: there is no talk of any other story.
* `Room.Tidy`: which gates are not revoked.
* `Room.left`: a room without its mount.
* `Room.Tidy.gone`: what is left of it.
-/

namespace StoryPlayer

namespace Board

/-- Views offered to a gate leave the others as they are. -/
theorem gate_offer_of_ne (b : Board) {id other : GateId} (h : id ≠ other) (v : View) :
    (b.offer id v).gates[other]? = b.gates[other]? := by
  rw [gate_offer]
  simp [h]

end Board

namespace Controller

variable {σ : Type}

theorem gate_foldl_push_of_ne (c : Controller σ) {gate other : GateId} (h : gate ≠ other)
    (views : List View) :
    (views.foldl (fun c v => c.push gate v) c).board.gates[other]? = c.board.gates[other]? := by
  induction views generalizing c with
  | nil => rfl
  | cons v rest ih => exact (ih (c.push gate v)).trans (c.board.gate_offer_of_ne h v)

/-- A command changes no gate but that of the session. -/
theorem gate_handle_of_ne [Session σ] {c : Controller σ} {a : Active σ} (ha : c.active = some a)
    {gate : GateId} (h : a.gate ≠ gate) (command : Command) :
    (c.handle command).1.board.gates[gate]? = c.board.gates[gate]? := by
  rw [handle, ha]
  simp only [gates_rebuild]
  exact gate_foldl_push_of_ne _ h _

end Controller

namespace Room

variable {σ : Type} {r r' : Room σ}

/-! ## The story -/

/-- Everybody in the room is there for this story, and no other one is loaded. -/
structure Asks (resource : String) (r : Room σ) : Prop where
  waiting : ∀ p ∈ r.waiting, p.2 = resource
  running : ∀ a ∈ r.running, a.resource = resource
  loaded : ∀ name ∈ r.controller.resource?, name = resource

theorem asks_roomFor (resource : String) : (App.roomFor resource : Room σ).Asks resource where
  waiting := by
    intro p hp
    cases List.mem_singleton.mp hp
    rfl
  running := nofun
  loaded := nofun

theorem Asks.withController {resource : String} (h : r.Asks resource) {c : Controller σ}
    (hc : c.resource? = r.controller.resource?) :
    ({ r with controller := c } : Room σ).Asks resource :=
  ⟨h.waiting, h.running, fun name hn => h.loaded name (hc ▸ hn)⟩

/-- Those who are in the room may go away. -/
theorem Asks.alone {resource : String} (h : r.Asks resource) :
    ({ r with running := none, waiting := [] } : Room σ).Asks resource where
  waiting := nofun
  running := nofun
  loaded := h.loaded

theorem Asks.steps [Session σ] {engine : Engine σ} {resource : String} (h : r.Asks resource)
    (hs : r.Steps engine r') : r'.Asks resource := by
  cases hs with
  | idle => exact h
  | @push a v next running =>
    refine ⟨h.waiting, ?_, h.loaded⟩
    intro a' ha'
    cases ha'
    exact h.running a running
  | @suspend a next running =>
    refine ⟨h.waiting, ?_, h.loaded⟩
    intro a' ha'
    cases ha'
    exact h.running a running
  | @finish a result running =>
    refine ⟨h.waiting, nofun, ?_⟩
    intro name hn
    change name ∈ (r.controller.conclude a.gate a.resource result).1.resource? at hn
    rw [(Controller.conclude_frame r.controller a.gate a.resource result).2.1] at hn
    cases result with
    | error e => exact h.loaded name hn
    | ok session =>
      cases hn
      exact h.running a running
  | dismiss running first =>
    refine ⟨?_, h.running, h.loaded⟩
    intro p hp
    exact h.waiting p (first ▸ List.mem_cons_of_mem _ hp)
  | @begin caller id waiting running first =>
    refine ⟨?_, ?_, h.loaded⟩
    · intro p hp
      exact h.waiting p (first ▸ List.mem_cons_of_mem _ hp)
    · intro a ha
      cases ha
      exact h.waiting (caller, id) (first ▸ List.mem_cons_self)

/-! ## The gates -/

/-- At most one caller is there, and every gate that is not revoked is in use. -/
structure Tidy (r : Room σ) : Prop where
  alone : r.waiting.length + r.running.toList.length ≤ 1
  /-- As long as somebody loads or waits to, there is no session. -/
  unloaded : r.isBusy = true → r.controller.active = none
  /-- A gate that is not revoked is that of the attempt under way or that of the session. -/
  gates : ∀ gate g, r.controller.board.gates[gate]? = some g → g = .revoked ∨
    (∃ a ∈ r.running, a.gate = gate) ∨ ∃ a ∈ r.controller.active, a.gate = gate

theorem tidy_roomFor (resource : String) : (App.roomFor resource : Room σ).Tidy where
  alone := Nat.le_refl 1
  unloaded := fun _ => rfl
  gates := nofun

/-- Who has a session is not busy. -/
theorem Tidy.not_isBusy (h : r.Tidy) {a : Active σ} (ha : r.controller.active = some a) :
    r.isBusy = false := by
  cases hb : r.isBusy with
  | false => rfl
  | true => cases (h.unloaded hb).symm.trans ha

theorem isBusy_of_running {a : Attempt σ} (hr : r.running = some a) : r.isBusy = true := by
  rw [isBusy, hr]
  rfl

/-- While an attempt is under way, nobody waits and there is no session. -/
theorem Tidy.of_running (h : r.Tidy) {a : Attempt σ} (hr : r.running = some a) :
    r.waiting = [] ∧ r.controller.active = none := by
  have halone := h.alone
  rw [hr, Option.toList_some, List.length_singleton] at halone
  exact ⟨List.length_eq_zero_iff.mp (Nat.le_zero.mp (Nat.le_of_succ_le_succ halone)),
    h.unloaded (isBusy_of_running hr)⟩

variable [Session σ]

/-- The attempt under way ends: its gate is revoked, or its session is there. -/
theorem Tidy.finish (h : r.Tidy) {a : Attempt σ} (hr : r.running = some a)
    (result : Except LoadError σ) : (r.finish a result).Tidy := by
  obtain ⟨hwaiting, hactive⟩ := h.of_running hr
  have hothers : ∀ gate g, a.gate ≠ gate → r.controller.board.gates[gate]? = some g →
      g = .revoked := by
    intro gate g hne hg
    rcases h.gates gate g hg with hrevoked | ⟨b, hb, hgate⟩ | ⟨b, hb, -⟩
    · exact hrevoked
    · cases hr.symm.trans hb
      exact absurd hgate hne
    · cases hactive.symm.trans hb
  have hidle : (r.finish a result).isBusy = false := isBusy_eq_false_iff.mpr ⟨rfl, hwaiting⟩
  refine ⟨?_, fun hb => ?_, ?_⟩
  · show r.waiting.length + 0 ≤ 1
    rw [hwaiting]
    exact Nat.zero_le 1
  · cases hidle.symm.trans hb
  · intro gate g hg
    by_cases hgate : a.gate = gate
    · cases result with
      | error e =>
        change (r.controller.board.revoke a.gate).gates[gate]? = some g at hg
        rw [Board.gate_revoke, if_pos hgate] at hg
        obtain ⟨-, -, hrevoked⟩ := Option.map_eq_some_iff.mp hg
        exact .inl hrevoked.symm
      | ok session => exact .inr (.inr ⟨_, rfl, hgate⟩)
    · left
      cases result with
      | error e =>
        change (r.controller.board.revoke a.gate).gates[gate]? = some g at hg
        rw [Board.gate_revoke, if_neg hgate] at hg
        exact hothers gate g hgate hg
      | ok session =>
        change (Controller.rebuild { r.controller with
          board := r.controller.board.arm a.gate } session).board.gates[gate]? = some g at hg
        rw [Controller.gates_rebuild, Board.gate_arm, Option.map_eq_some_iff] at hg
        obtain ⟨g', hg', hsame⟩ := hg
        rw [if_neg hgate] at hsame
        exact hothers gate g hgate (hsame ▸ hg')

theorem Tidy.steps {engine : Engine σ} (h : r.Tidy) (hs : r.Steps engine r') : r'.Tidy := by
  cases hs with
  | idle => exact h
  | @push a v next running =>
    obtain ⟨hwaiting, hactive⟩ := h.of_running running
    refine ⟨?_, fun _ => hactive, ?_⟩
    · rw [hwaiting]
      exact Nat.le_refl 1
    · intro gate g hg
      by_cases hgate : a.gate = gate
      · exact .inr (.inl ⟨_, rfl, hgate⟩)
      · change (r.controller.board.offer a.gate v).gates[gate]? = some g at hg
        rw [Board.gate_offer_of_ne _ hgate] at hg
        refine (h.gates gate g hg).imp_right (Or.imp_left ?_)
        rintro ⟨b, hb, hsame⟩
        cases running.symm.trans hb
        exact absurd hsame hgate
  | @suspend a next running =>
    obtain ⟨hwaiting, hactive⟩ := h.of_running running
    refine ⟨?_, fun _ => hactive, ?_⟩
    · rw [hwaiting]
      exact Nat.le_refl 1
    · intro gate g hg
      refine (h.gates gate g hg).imp_right (Or.imp_left ?_)
      rintro ⟨b, hb, hsame⟩
      cases running.symm.trans hb
      exact ⟨_, rfl, hsame⟩
  | finish running => exact h.finish running _
  | dismiss running first loaded =>
    -- Whoever waits finds no session.
    have hbusy : r.isBusy = true := by
      rw [isBusy, first]
      simp
    rw [Controller.isLoaded, h.unloaded hbusy] at loaded
    cases loaded
  | @begin caller id waiting running first unloaded =>
    have hactive := Option.not_isSome_iff_eq_none.mp unloaded
    refine ⟨?_, fun _ => hactive, ?_⟩
    · have halone := h.alone
      rw [first, List.length_cons] at halone
      show waiting.length + 1 ≤ 1
      omega
    · intro gate g hg
      change (r.controller.board.gates ++ [.pending none])[gate]? = some g at hg
      rw [List.getElem?_append] at hg
      split at hg
      · rcases h.gates gate g hg with hrevoked | ⟨b, hb, -⟩ | ⟨b, hb, -⟩
        · exact .inl hrevoked
        · cases running.symm.trans hb
        · cases hactive.symm.trans hb
      · obtain ⟨hbound, -⟩ := List.getElem?_eq_some_iff.mp hg
        rw [List.length_singleton] at hbound
        refine .inr (.inl ⟨_, rfl, ?_⟩)
        show r.controller.board.gates.length = gate
        omega

/-- A command is for the session. -/
theorem Tidy.handle (h : r.Tidy) (command : Command) :
    ({ r with controller := (r.controller.handle command).1 } : Room σ).Tidy := by
  cases ha : r.controller.active with
  | none =>
    rw [Controller.handle_of_none ha]
    exact h
  | some a =>
    have hidle : r.isBusy = false := h.not_isBusy ha
    refine ⟨h.alone, fun hb => ?_, ?_⟩
    · cases hidle.symm.trans hb
    · intro gate g hg
      have hactive := Controller.active_handle r.controller command
      rw [ha, Option.map_some] at hactive
      by_cases hgate : a.gate = gate
      · exact .inr (.inr ⟨_, hactive, hgate⟩)
      · change (r.controller.handle command).1.board.gates[gate]? = some g at hg
        rw [Controller.gate_handle_of_ne ha hgate] at hg
        refine (h.gates gate g hg).imp_right (Or.imp_right ?_)
        rintro ⟨b, hb, hsame⟩
        cases ha.symm.trans hb
        exact absurd hsame hgate

/-! ## Left behind -/

omit [Session σ]

/-- A room without its mount. It stays as it is as long as somebody loads there or waits to. Otherwise
its session is gone, and the gate of the session is revoked. -/
def left (r : Room σ) : Room σ :=
  match r.isBusy, r.controller.active with
  | false, some a =>
    { r with controller := { r.controller with
        board := r.controller.board.revoke a.gate
        active := none } }
  | _, _ => r

theorem left_of_none (ha : r.controller.active = none) : r.left = r := by
  rw [left, ha]
  split
  · rename_i hsome
    cases hsome
  · rfl

theorem left_of_some (hb : r.isBusy = false) {a : Active σ} (ha : r.controller.active = some a) :
    r.left = { r with controller := { r.controller with
      board := r.controller.board.revoke a.gate
      active := none } } := by
  rw [left, hb, ha]

theorem abandon_eq_left (r : Room σ) : App.abandon r = r.left := by
  obtain ⟨⟨board, active, received⟩, running, waiting, answers, history⟩ := r
  rw [App.abandon, left, Controller.close]
  cases isBusy _ with
  | true => rfl
  | false =>
    cases active with
    | none => rfl
    | some a => rfl

theorem Tidy.left (h : r.Tidy) : r.left.Tidy := by
  rw [Room.left]
  split
  · rename_i a hb ha
    obtain ⟨hrunning, hwaiting⟩ := isBusy_eq_false_iff.mp hb
    refine ⟨h.alone, fun _ => rfl, ?_⟩
    intro gate g hg
    change (r.controller.board.revoke a.gate).gates[gate]? = some g at hg
    rw [Board.gate_revoke] at hg
    split at hg
    · obtain ⟨-, -, hrevoked⟩ := Option.map_eq_some_iff.mp hg
      exact .inl hrevoked.symm
    · rename_i hgate
      refine (h.gates gate g hg).imp_right (Or.imp_right ?_)
      rintro ⟨b, hb, hsame⟩
      cases ha.symm.trans hb
      exact absurd hsame hgate
  · exact h

/-- **What is left of a room without its mount:** no session, and as soon as nobody loads there no gate
that is not revoked. -/
theorem Tidy.gone (h : r.Tidy) : r.left.controller.active = none ∧
    (r.left.isBusy = false → ∀ gate ∈ r.left.controller.board.gates, gate = .revoked) := by
  have hactive : r.left.controller.active = none := by
    rw [Room.left]
    split
    · rfl
    · rename_i hcases
      cases ha : r.controller.active with
      | none => rfl
      | some a => exact absurd ha (hcases a (h.not_isBusy ha))
  refine ⟨hactive, fun hb g hg => ?_⟩
  obtain ⟨gate, hgate⟩ := List.mem_iff_getElem?.mp hg
  rcases h.left.gates gate g hgate with hrevoked | ⟨b, hrunning, -⟩ | ⟨b, hb', -⟩
  · exact hrevoked
  · cases (isBusy_eq_false_iff.mp hb).1.symm.trans hrunning
  · cases hactive.symm.trans hb'

end Room

end StoryPlayer
