import StoryPlayer.Proofs.Controller.Reading

/-!
# Lives of controllers

Sinks outlive their attempts and even the controller, and whoever holds one may push on it at any
time. A life of a controller is a sequence of acts: attempts begin, fail and succeed, views are
pushed on sinks of all kinds, commands come in, and in the end the controller is given up. The engine
is arbitrary, since attempts end as the acts say and sessions are of any type.

* `Life.change_act`: all that an act can do.
* `Life.Sound`: which gates are pending and which are armed, kept by every act.
-/

namespace StoryPlayer

open Board (Publishes)

/-- A controller in use or given up. -/
inductive Life (σ : Type) where
  /-- In use, with the gate and the story of the attempt under way. -/
  | up (controller : Controller σ) (attempt : Option (GateId × String))
  /-- Given up. The board is still there for those who look at it and those who hold sinks. -/
  | down (board : Board)

namespace Life

/-- What can happen to a controller and its sinks. -/
inductive Act (σ : Type) where
  /-- An attempt begins, unless there is one under way or a session already. -/
  | start (resource : String)
  | push (gate : GateId) (v : View)
  /-- The attempt under way fails. -/
  | fail (e : LoadError)
  /-- The attempt under way succeeds with this session. -/
  | succeed (session : σ)
  | input (command : Command)
  | drop

variable {σ : Type}

def fresh : Life σ := .up .fresh none

def board : Life σ → Board
  | .up c _ => c.board
  | .down b => b

/-- The gate of the attempt under way. -/
def attempt? : Life σ → Option GateId
  | .up _ attempt => attempt.map Prod.fst
  | .down _ => none

def active? : Life σ → Option (Active σ)
  | .up c _ => c.active
  | .down _ => none

variable [Session σ]

def act : Life σ → Act σ → Life σ
  | .up c attempt, .push gate v => .up (c.push gate v) attempt
  | .up c attempt, .input command => .up (c.handle command).1 attempt
  | .up c _, .drop => .down c.close
  | .up c none, .start resource =>
    if c.isLoaded then .up c none else .up c.openAttempt.2 (some (c.openAttempt.1, resource))
  | .up c (some (gate, resource)), .fail e => .up (c.conclude gate resource (.error e)).1 none
  | .up c (some (gate, resource)), .succeed session =>
    .up (c.conclude gate resource (.ok session)).1 none
  | .down b, .push gate v => .down (b.offer gate v)
  | life, _ => life

def run (acts : List (Act σ)) : Life σ := acts.foldl act fresh

theorem run_append (acts later : List (Act σ)) :
    run (acts ++ later) = later.foldl act (run acts) :=
  List.foldl_append

/-! ## All that an act can do -/

/-- The attempt under way has a pending gate, the session has an armed one, and no other gate is
armed. -/
structure Sound (life : Life σ) : Prop where
  pending : ∀ gate, life.attempt? = some gate →
    life.active? = none ∧ ∃ held, life.board.gates[gate]? = some (.pending held)
  armed : ∀ a, life.active? = some a → life.board.gates[a.gate]? = some .armed
  only : ∀ gate : GateId, life.board.gates[gate]? = some .armed →
    ∃ a, life.active? = some a ∧ a.gate = gate

inductive Change (life life' : Life σ) : Act σ → Prop
  /-- Nothing: what cannot happen now, or a command without a session. -/
  | idle {act : Act σ} (same : life' = life) (push : ∀ gate v, act ≠ .push gate v)
      (input : ∀ command, act = .input command → life.active? = none) (drop : act ≠ .drop) :
      Change life life' act
  | push {gate : GateId} {v : View} (board' : life'.board = life.board.offer gate v)
      (attempt' : life'.attempt? = life.attempt?) (active' : life'.active? = life.active?) :
      Change life life' (.push gate v)
  | start {resource : String} (attempt : life.attempt? = none) (active : life.active? = none)
      (board' : life'.board = life.board.openGate.2)
      (attempt' : life'.attempt? = some life.board.openGate.1) (active' : life'.active? = none) :
      Change life life' (.start resource)
  | fail {e : LoadError} {gate : GateId} (attempt : life.attempt? = some gate)
      (board' : life'.board = life.board.revoke gate) (attempt' : life'.attempt? = none)
      (active' : life'.active? = none) : Change life life' (.fail e)
  | succeed {session : σ} {gate : GateId} {resource : String} {held : Option View}
      (attempt : life.attempt? = some gate)
      (holds : life.board.gates[gate]? = some (.pending held))
      (gates' : life'.board.gates = life.board.gates.set gate .armed)
      (publishes : life.board.Publishes (held.toList ++ Session.reading session) life'.board)
      (attempt' : life'.attempt? = none) (active' : life'.active? = some ⟨resource, session, gate⟩) :
      Change life life' (.succeed session)
  | input {command : Command} {a : Active σ} (active : life.active? = some a)
      (gates' : life'.board.gates = life.board.gates)
      (publishes : life.board.Publishes ((Session.evaluate a.session command).2 ++
        Session.reading (Session.evaluate a.session command).1) life'.board)
      (attempt' : life'.attempt? = life.attempt?)
      (active' : life'.active? =
        some { a with session := (Session.evaluate a.session command).1 }) :
      Change life life' (.input command)
  | drop {a : Active σ} (active : life.active? = some a)
      (board' : life'.board = life.board.revoke a.gate) (attempt' : life'.attempt? = none)
      (active' : life'.active? = none) : Change life life' .drop
  | dropIdle (active : life.active? = none) (board' : life'.board = life.board)
      (attempt' : life'.attempt? = none) (active' : life'.active? = none) :
      Change life life' .drop

variable {life life' : Life σ} {gate : GateId} {act : Act σ}

/-- **All that an act can do.** -/
theorem change_act (h : life.Sound) (act : Act σ) : Change life (life.act act) act := by
  cases life with
  | down b =>
    cases act with
    | push gate v => exact .push rfl rfl rfl
    | drop => exact .dropIdle rfl rfl rfl rfl
    | start resource => exact .idle rfl nofun nofun nofun
    | fail e => exact .idle rfl nofun nofun nofun
    | succeed session => exact .idle rfl nofun nofun nofun
    | input command => exact .idle rfl nofun (fun _ _ => rfl) nofun
  | up c attempt =>
    cases act with
    | push gate v => exact .push rfl rfl rfl
    | input command =>
      cases hc : c.active with
      | none =>
        have hact : (up c attempt).act (.input command) = up c attempt := by
          rw [Life.act, Controller.handle_of_none hc]
        exact .idle hact nofun (fun _ _ => hc) nofun
      | some a =>
        obtain ⟨c', hhandle, hactive, hgates, hpub⟩ :=
          Controller.handle_of_active hc (h.armed a hc) command
        have hact : (up c attempt).act (.input command) = up c' attempt := by
          rw [Life.act, hhandle]
        rw [hact]
        exact .input hc hgates hpub rfl hactive
    | drop =>
      cases hc : c.active with
      | none =>
        have hclose : c.close = c.board := by rw [Controller.close, hc]
        exact .dropIdle hc hclose rfl rfl
      | some a =>
        have hclose : c.close = c.board.revoke a.gate := by rw [Controller.close, hc]
        exact .drop hc hclose rfl rfl
    | start resource =>
      cases attempt with
      | some a => exact .idle rfl nofun nofun nofun
      | none =>
        rw [Life.act]
        split
        · exact .idle rfl nofun nofun nofun
        · rename_i hl
          have hc : c.active = none := Option.not_isSome_iff_eq_none.mp hl
          exact .start rfl hc rfl rfl hc
    | fail e =>
      cases attempt with
      | none => exact .idle rfl nofun nofun nofun
      | some a => exact .fail rfl rfl rfl (h.pending a.1 rfl).1
    | succeed session =>
      cases attempt with
      | none => exact .idle rfl nofun nofun nofun
      | some a =>
        obtain ⟨-, held, hheld⟩ := h.pending a.1 rfl
        obtain ⟨c', hconclude, hactive, hgates, hpub⟩ :=
          Controller.conclude_ok hheld a.2 session
        have hact : (up c (some a)).act (.succeed session) = up c' none := by
          rw [Life.act, hconclude]
        rw [hact]
        exact .succeed rfl hheld hgates hpub rfl hactive

omit [Session σ] in
theorem Sound.not_armed (h : life.Sound) (ha : life.active? = none) (gate : GateId) :
    life.board.gates[gate]? ≠ some .armed := by
  intro hg
  obtain ⟨a, hactive, -⟩ := h.only gate hg
  rw [ha] at hactive
  cases hactive

theorem Sound.change (h : life.Sound) (c : Change life life' act) : life'.Sound := by
  cases c with
  | idle same => exact same ▸ h
  | push board' attempt' active' =>
    refine ⟨?_, ?_, ?_⟩
    · intro gate ha
      rw [attempt'] at ha
      obtain ⟨hactive, held, hg⟩ := h.pending gate ha
      refine ⟨active'.trans hactive, ?_⟩
      rw [board', Board.gate_offer, hg, Option.map_some]
      split
      · exact ⟨_, rfl⟩
      · exact ⟨held, rfl⟩
    · intro a ha
      rw [board', Board.armed_offer_iff]
      exact h.armed a (active' ▸ ha)
    · intro gate hg
      rw [board', Board.armed_offer_iff] at hg
      rw [active']
      exact h.only gate hg
  | start attempt active board' attempt' active' =>
    refine ⟨?_, ?_, ?_⟩
    · intro gate ha
      cases attempt'.symm.trans ha
      rw [board']
      exact ⟨active', none, Board.gate_openGate life.board⟩
    · intro a ha
      cases active'.symm.trans ha
    · intro gate hg
      rw [board', Board.gate_openGate_eq (g := .armed) life.board gate nofun] at hg
      exact absurd hg (h.not_armed active gate)
  | fail attempt board' attempt' active' =>
    refine ⟨?_, ?_, ?_⟩
    · intro gate ha
      cases attempt'.symm.trans ha
    · intro a ha
      cases active'.symm.trans ha
    · intro gate hg
      rw [board', Board.armed_revoke_iff] at hg
      exact absurd hg.2 (h.not_armed (h.pending _ attempt).1 gate)
  | succeed attempt holds gates' publishes attempt' active' =>
    refine ⟨?_, ?_, ?_⟩
    · intro gate ha
      cases attempt'.symm.trans ha
    · intro a ha
      cases active'.symm.trans ha
      obtain ⟨hid, -⟩ := List.getElem?_eq_some_iff.mp holds
      rw [gates', List.getElem?_set_self hid]
    · intro gate hg
      rw [gates', List.getElem?_set] at hg
      split at hg
      · rename_i heq
        exact ⟨_, active', heq⟩
      · exact absurd hg (h.not_armed (h.pending _ attempt).1 gate)
  | @input command a active gates' publishes attempt' active' =>
    refine ⟨?_, ?_, ?_⟩
    · intro gate ha
      have hnone := (h.pending gate (attempt' ▸ ha)).1
      cases hnone.symm.trans active
    · intro b hb
      cases active'.symm.trans hb
      rw [gates']
      exact h.armed a active
    · intro gate hg
      rw [gates'] at hg
      obtain ⟨b, hb, hgate⟩ := h.only gate hg
      cases active.symm.trans hb
      exact ⟨_, active', hgate⟩
  | drop active board' attempt' active' =>
    refine ⟨?_, ?_, ?_⟩
    · intro gate ha
      cases attempt'.symm.trans ha
    · intro a ha
      cases active'.symm.trans ha
    · intro gate hg
      rw [board', Board.armed_revoke_iff] at hg
      obtain ⟨a, ha, hgate⟩ := h.only gate hg.2
      cases active.symm.trans ha
      exact absurd hgate hg.1
  | dropIdle active board' attempt' active' =>
    refine ⟨?_, ?_, ?_⟩
    · intro gate ha
      cases attempt'.symm.trans ha
    · intro a ha
      cases active'.symm.trans ha
    · intro gate hg
      rw [board'] at hg
      exact absurd hg (h.not_armed active gate)

theorem Sound.next (h : life.Sound) (act : Act σ) : (life.act act).Sound :=
  h.change (change_act h act)

theorem sound_run (acts : List (Act σ)) : (run acts).Sound := by
  have hrun : ∀ life : Life σ, life.Sound → (acts.foldl Life.act life).Sound := by
    induction acts with
    | nil => exact fun _ h => h
    | cons act rest ih => exact fun _ h => ih _ (h.next act)
  exact hrun fresh ⟨nofun, nofun, nofun⟩

/-! ## What stays as it is -/

/-- Gates are never taken away. -/
theorem Change.length_gates_le (c : Change life life' act) :
    life.board.gates.length ≤ life'.board.gates.length := by
  cases c with
  | idle same => exact Nat.le_of_eq (same ▸ rfl)
  | push board' => exact Nat.le_of_eq (board' ▸ (Board.length_gates_offer _ _ _).symm)
  | start attempt active board' =>
    rw [board', Board.openGate, List.length_append]
    exact Nat.le_succ _
  | fail attempt board' => exact Nat.le_of_eq (board' ▸ (Board.length_gates_revoke _ _).symm)
  | succeed attempt holds gates' => exact Nat.le_of_eq (gates' ▸ List.length_set.symm)
  | input active gates' => exact Nat.le_of_eq (gates' ▸ rfl)
  | drop active board' => exact Nat.le_of_eq (board' ▸ (Board.length_gates_revoke _ _).symm)
  | dropIdle active board' => exact Nat.le_of_eq (board' ▸ rfl)

/-- A revoked gate is never opened again. -/
theorem Change.revoked (c : Change life life' act)
    (hg : life.board.gates[gate]? = some .revoked) :
    life'.board.gates[gate]? = some .revoked := by
  cases c with
  | idle same => exact same ▸ hg
  | push board' =>
    rw [board', Board.revoked_offer_iff]
    exact hg
  | start attempt active board' =>
    rw [board', Board.gate_openGate_eq (g := .revoked) life.board gate nofun]
    exact hg
  | fail attempt board' =>
    rw [board']
    exact Board.revoked_revoke hg _
  | @succeed session other resource held attempt holds gates' =>
    -- The gate that is armed was pending, so it is another one.
    have hother : other ≠ gate := by
      rintro rfl
      cases hg.symm.trans holds
    rw [gates', List.getElem?_set_ne hother]
    exact hg
  | input active gates' =>
    rw [gates']
    exact hg
  | drop active board' =>
    rw [board']
    exact Board.revoked_revoke hg _
  | dropIdle active board' =>
    rw [board']
    exact hg

theorem Sound.revoked_foldl (h : life.Sound) (hg : life.board.gates[gate]? = some .revoked)
    (acts : List (Act σ)) : (acts.foldl Life.act life).board.gates[gate]? = some .revoked := by
  induction acts generalizing life with
  | nil => exact hg
  | cons act rest ih => exact ih (h.next act) ((change_act h act).revoked hg)

end Life

end StoryPlayer
