import StoryPlayer.Engine.Rehearsal
import StoryPlayer.Proofs.Controller.Life
import StoryPlayer.Proofs.Controller.SingleLoad
import Mathlib.Data.List.Induction

/-!
# Only the attempt that succeeds is seen

What is published in a life of a controller, and what never is.

* `Life.onlyWinner_run`: any life.
* `Life.exists_run_eq_ofRoom`: whatever callers do in a room is such a life.
-/

namespace StoryPlayer

open Board (Publishes)

namespace Life

variable {σ : Type} [Session σ] {life : Life σ} {gate : GateId}

/-! ## Single acts -/

theorem publishes_push (life : Life σ) (gate : GateId) (v : View) :
    life.board.Publishes (if life.board.gates[gate]? = some .armed then [v] else [])
      (life.act (.push gate v)).board := by
  cases life with
  | down b => exact Board.publishes_offer b gate v
  | up c attempt => exact Board.publishes_offer c.board gate v

theorem revoked_fail (h : life.Sound) (ha : life.attempt? = some gate) (e : LoadError) :
    (life.act (.fail e)).board.gates[gate]? = some .revoked := by
  cases life with
  | down b => cases ha
  | up c attempt =>
    obtain ⟨a, rfl, rfl⟩ := Option.map_eq_some_iff.mp ha
    obtain ⟨-, held, hheld⟩ := h.pending a.1 rfl
    change (c.board.revoke a.1).gates[a.1]? = some .revoked
    rw [Board.gate_revoke, if_pos rfl, show c.board.gates[a.1]? = _ from hheld]
    rfl

theorem publishes_drop (life : Life σ) : life.board.Publishes [] (life.act .drop).board := by
  cases life with
  | down b => exact .refl b
  | up c attempt =>
    change c.board.Publishes [] c.close
    rw [Controller.close]
    cases c.active with
    | none => exact .refl c.board
    | some a => exact Board.publishes_revoke c.board a.gate

/-! ## Without a session -/

/-- Without a session nothing is published, unless an act brings one about. -/
theorem unseen_act (h : life.Sound) (hn : life.active? = none) {act : Act σ}
    (hs : ∀ session, act = .succeed session → life.attempt? = none) :
    (life.act act).active? = none ∧ life.board.Publishes [] (life.act act).board := by
  cases change_act h act with
  | idle same =>
    rw [same]
    exact ⟨hn, .refl life.board⟩
  | @push gate v board' attempt' active' =>
    have hpush := publishes_push life gate v
    rw [if_neg (h.not_armed hn gate)] at hpush
    exact ⟨active'.trans hn, hpush⟩
  | start attempt active board' attempt' active' =>
    rw [board']
    exact ⟨active', Board.publishes_openGate life.board⟩
  | fail attempt board' attempt' active' =>
    rw [board']
    exact ⟨active', Board.publishes_revoke life.board _⟩
  | succeed attempt =>
    cases (hs _ rfl).symm.trans attempt
  | input active => cases hn.symm.trans active
  | drop active => cases hn.symm.trans active
  | dropIdle active board' attempt' active' =>
    rw [board']
    exact ⟨active', .refl life.board⟩

theorem unseen_run (acts : List (Act σ))
    (h : ∀ past session, past ++ [.succeed session] <+: acts → (run past).attempt? = none) :
    (run acts).active? = none ∧ Board.fresh.Publishes [] (run acts).board := by
  induction acts using List.reverseRecOn with
  | nil => exact ⟨rfl, .refl _⟩
  | append_singleton acts act ih =>
    obtain ⟨hnone, hpub⟩ := ih fun past session hp => h past session
      (hp.trans (List.prefix_append acts [act]))
    have hsucceed : ∀ session, act = .succeed session → (run acts).attempt? = none := by
      rintro session rfl
      exact h acts session (List.prefix_refl _)
    obtain ⟨hnone', hact⟩ := unseen_act (sound_run acts) hnone hsucceed
    rw [run_append]
    exact ⟨hnone', hpub.trans hact⟩

/-! ## Given up -/

theorem publishes_down {b : Board} (h : Sound (.down b : Life σ)) (acts : List (Act σ)) :
    b.Publishes [] (acts.foldl act (.down b)).board := by
  induction acts generalizing b with
  | nil => exact .refl b
  | cons act rest ih =>
    cases act with
    | push gate v =>
      have hgate : b.gates[gate]? ≠ some .armed := h.not_armed rfl gate
      have hpush := Board.publishes_offer b gate v
      rw [if_neg hgate] at hpush
      exact hpush.trans (ih (h.next (.push gate v)))
    | _ => exact ih h

theorem publishes_foldl_drop (h : life.Sound) (later : List (Act σ)) :
    life.board.Publishes [] ((.drop :: later : List (Act σ)).foldl act life).board := by
  have hdown : ∃ b, life.act .drop = .down b := by
    cases life with
    | down b => exact ⟨b, rfl⟩
    | up c attempt => exact ⟨c.close, rfl⟩
  obtain ⟨b, hb⟩ := hdown
  have hdrop := publishes_drop life
  have hsound := h.next .drop
  rw [hb] at hdrop hsound
  rw [List.foldl_cons, hb]
  exact hdrop.trans (publishes_down hsound later)

/-! ## The attempt under way -/

/-- The views that are pushed on a sink, in order. -/
def pushesOn (gate : GateId) (acts : List (Act σ)) : List View :=
  acts.filterMap fun
    | .push other v => if other = gate then some v else none
    | _ => none

omit [Session σ] in
theorem pushesOn_cons (gate : GateId) (act : Act σ) (rest : List (Act σ)) :
    pushesOn gate (act :: rest) = pushesOn gate [act] ++ pushesOn gate rest :=
  List.filterMap_append (l := [act])

/-- An attempt that is under way and whose gate is not new was under way before. -/
theorem attempt?_of_act (h : life.Sound) (hlt : gate < life.board.gates.length) {act : Act σ}
    (ha : (life.act act).attempt? = some gate) : life.attempt? = some gate := by
  cases change_act h act with
  | idle same => exact same ▸ ha
  | push board' attempt' => exact attempt' ▸ ha
  | start attempt active board' attempt' =>
    cases attempt'.symm.trans ha
    exact absurd hlt (Nat.lt_irrefl _)
  | fail attempt board' attempt' => cases attempt'.symm.trans ha
  | succeed attempt holds gates' publishes attempt' => cases attempt'.symm.trans ha
  | input active gates' publishes attempt' => exact attempt' ▸ ha
  | drop active board' attempt' => cases attempt'.symm.trans ha
  | dropIdle active board' attempt' => cases attempt'.symm.trans ha

theorem attempt?_of_foldl (h : life.Sound) (hlt : gate < life.board.gates.length)
    {acts : List (Act σ)} (ha : (acts.foldl act life).attempt? = some gate) :
    life.attempt? = some gate := by
  induction acts generalizing life with
  | nil => exact ha
  | cons act rest ih =>
    have hlt' := Nat.lt_of_lt_of_le hlt (change_act h act).length_gates_le
    exact attempt?_of_act h hlt (ih (h.next act) hlt' ha)

/-- While an attempt is under way, its gate holds the last view pushed on its sink. -/
theorem held_act (h : life.Sound) {held : Option View}
    (hheld : life.board.gates[gate]? = some (.pending held)) {act : Act σ}
    (ha : (life.act act).attempt? = some gate) :
    (life.act act).board.gates[gate]? =
      some (.pending ((pushesOn gate [act]).getLast?.or held)) := by
  cases hc : change_act h act with
  | idle same push =>
    have hnone : pushesOn gate [act] = [] := by
      cases act with
      | push other v => exact absurd rfl (push other v)
      | _ => rfl
    rw [same, hnone]
    exact hheld
  | @push other v board' =>
    rw [board', Board.gate_offer, hheld, Option.map_some]
    by_cases hother : other = gate
    · simp [pushesOn, hother, Gate.offered]
    · simp [pushesOn, hother]
  | start attempt active board' attempt' =>
    -- The gate of an attempt that begins is new.
    cases attempt'.symm.trans ha
    obtain ⟨hlt, -⟩ := List.getElem?_eq_some_iff.mp hheld
    exact absurd hlt (Nat.lt_irrefl _)
  | fail attempt board' attempt' => cases attempt'.symm.trans ha
  | succeed attempt holds gates' publishes attempt' => cases attempt'.symm.trans ha
  | input active gates' =>
    rw [gates']
    exact hheld
  | drop active board' attempt' => cases attempt'.symm.trans ha
  | dropIdle active board' attempt' => cases attempt'.symm.trans ha

theorem held_foldl (h : life.Sound) {held : Option View}
    (hheld : life.board.gates[gate]? = some (.pending held)) {acts : List (Act σ)}
    (ha : (acts.foldl act life).attempt? = some gate) :
    (acts.foldl act life).board.gates[gate]? =
      some (.pending ((pushesOn gate acts).getLast?.or held)) := by
  induction acts generalizing life held with
  | nil => exact hheld
  | cons act rest ih =>
    obtain ⟨hlt, -⟩ := List.getElem?_eq_some_iff.mp hheld
    have hlt' := Nat.lt_of_lt_of_le hlt (change_act h act).length_gates_le
    have hnext := attempt?_of_foldl (h.next act) hlt' ha
    have hall := ih (h.next act) (held_act h hheld hnext) ha
    rw [List.foldl_cons, hall, pushesOn_cons gate act rest, List.getLast?_append, Option.or_assoc]

theorem held_start (h : life.Sound) {resource : String} (hn : life.attempt? = none)
    (ha : (life.act (.start resource)).attempt? = some gate) :
    (life.act (.start resource)).board.gates[gate]? = some (.pending none) := by
  cases change_act h (.start resource) with
  | idle same =>
    rw [same, hn] at ha
    cases ha
  | start attempt active board' attempt' =>
    cases attempt'.symm.trans ha
    rw [board']
    exact Board.gate_openGate life.board

theorem succeed_of_held (ha : life.attempt? = some gate) {held : Option View}
    (hheld : life.board.gates[gate]? = some (.pending held)) (session : σ) :
    (∃ resource, (life.act (.succeed session)).active? = some ⟨resource, session, gate⟩) ∧
      life.board.Publishes (held.toList ++ Session.reading session)
        (life.act (.succeed session)).board := by
  cases life with
  | down b => cases ha
  | up c attempt =>
    obtain ⟨a, rfl, rfl⟩ := Option.map_eq_some_iff.mp ha
    obtain ⟨c', hconclude, hactive, -, hpub⟩ := Controller.conclude_ok hheld a.2 session
    rw [Life.act, hconclude]
    exact ⟨⟨a.2, hactive⟩, hpub⟩

/-! ## After the success -/

/-- What is published from when a session is there: the views pushed on its sink, the views that it
pushes upon commands, and what is read of it after each command, until the end. -/
def broadcast (a : Active σ) : List (Act σ) → List View
  | [] => []
  | .push gate v :: rest => (if gate = a.gate then [v] else []) ++ broadcast a rest
  | .input command :: rest =>
    let (session, views) := Session.evaluate a.session command
    views ++ Session.reading session ++ broadcast { a with session } rest
  | .drop :: _ => []
  | _ :: rest => broadcast a rest

omit [Session σ] in
theorem Sound.armed_iff (h : life.Sound) {a : Active σ} (ha : life.active? = some a)
    (gate : GateId) : life.board.gates[gate]? = some .armed ↔ gate = a.gate := by
  constructor
  · intro hg
    obtain ⟨b, hb, hgate⟩ := h.only gate hg
    cases ha.symm.trans hb
    exact hgate.symm
  · rintro rfl
    exact h.armed a ha

theorem publishes_broadcast (h : life.Sound) {a : Active σ} (ha : life.active? = some a)
    (acts : List (Act σ)) :
    life.board.Publishes (broadcast a acts) (acts.foldl act life).board := by
  induction acts generalizing life a with
  | nil => exact .refl life.board
  | cons act rest ih =>
    have hnext := h.next act
    cases hc : change_act h act with
    | idle same push input drop =>
      have hrest := ih h ha
      rw [List.foldl_cons, same]
      cases act with
      | push gate v => exact absurd rfl (push gate v)
      | input command => cases (input command rfl).symm.trans ha
      | drop => exact absurd rfl drop
      | _ => exact hrest
    | @push gate v board' attempt' active' =>
      have hpush := publishes_push life gate v
      simp only [h.armed_iff ha] at hpush
      exact hpush.trans (ih hnext (active'.trans ha))
    | start attempt active => cases active.symm.trans ha
    | fail attempt => cases (h.pending _ attempt).1.symm.trans ha
    | succeed attempt => cases (h.pending _ attempt).1.symm.trans ha
    | input active gates' publishes attempt' active' =>
      cases active.symm.trans ha
      exact publishes.trans (ih hnext active')
    | drop => exact publishes_foldl_drop h rest
    | dropIdle active => cases active.symm.trans ha

/-! ## Any life -/

/-- What is published after these acts, and what has been. -/
structure OnlyWinner (acts : List (Act σ)) : Prop where
  /-- Until an attempt succeeds, the placeholder is there and nothing has been published. -/
  before : (∀ past session, past ++ [.succeed session] <+: acts → (run past).attempt? = none) →
    (run acts).board.current = .placeholder ∧ (run acts).board.count = 0
  /-- If an attempt now fails, no view that is ever pushed on its sink is published. -/
  failed : ∀ gate, (run acts).attempt? = some gate → ∀ e later v,
    (run (acts ++ .fail e :: later)).board.Publishes []
      (run (acts ++ .fail e :: later ++ [.push gate v])).board
  /-- If an attempt now begins and succeeds after other acts, the last view that has been pushed on
  its sink is published, if there is one, and then what can be read of its session. -/
  winner : ∀ gate resource during, (run acts).attempt? = none →
    (run (acts ++ [.start resource])).attempt? = some gate →
    (run (acts ++ .start resource :: during)).attempt? = some gate → ∀ session,
    (run (acts ++ .start resource :: during)).board.Publishes
        ((pushesOn gate during).getLast?.toList ++ Session.reading session)
        (run (acts ++ .start resource :: during ++ [.succeed session])).board ∧
      ∃ name, (run (acts ++ .start resource :: during ++ [.succeed session])).active? =
        some ⟨name, session, gate⟩
  /-- If there is a session now, exactly what it has to say is published from now on. -/
  afterwards : ∀ a, (run acts).active? = some a → ∀ later,
    (run acts).board.Publishes (broadcast a later) (run (acts ++ later)).board
  /-- If the controller is now given up, nothing is ever published again. -/
  dropped : ∀ later, (run acts).board.Publishes [] (run (acts ++ .drop :: later)).board

/-- **Only the attempt that succeeds is seen**, in any life of a controller with any sessions:
nothing before an attempt has succeeded, nothing ever of one that has failed, of the one that
succeeds first what it pushed last and then what its session has to say, and nothing once the
controller has been given up. -/
theorem onlyWinner_run (acts : List (Act σ)) : OnlyWinner acts where
  before := by
    intro hnone
    obtain ⟨-, hpub⟩ := unseen_run acts hnone
    exact ⟨hpub.current, hpub.count⟩
  failed := by
    intro gate ha e later v
    have hsound := sound_run acts
    have hrevoked := (hsound.next (.fail e)).revoked_foldl (revoked_fail hsound ha e) later
    have hpush := publishes_push (run (acts ++ .fail e :: later)) gate v
    rw [run_append, List.foldl_cons, hrevoked] at hpush
    rw [run_append _ [_], run_append, List.foldl_cons]
    exact hpush
  winner := by
    intro gate resource during hn hstart ha session
    have hsound := sound_run acts
    rw [run_append] at hstart ha
    have hheld := held_foldl (hsound.next (.start resource)) (held_start hsound hn hstart) ha
    rw [Option.or_none] at hheld
    obtain ⟨hactive, hpub⟩ := succeed_of_held ha hheld session
    rw [run_append _ [_], run_append]
    exact ⟨hpub, hactive⟩
  afterwards := by
    intro a ha later
    rw [run_append]
    exact publishes_broadcast (sound_run acts) ha later
  dropped := by
    intro later
    rw [run_append]
    exact publishes_foldl_drop (sound_run acts) later

/-! ### A second attempt -/

/-- A view of one line. -/
def oneLine (text : String) : View := ⟨[text], []⟩

/-- A session that lets itself be read and also pushes: two views upon `Enter`. -/
def twoFold : RehearsedSession :=
  ⟨⟨.both, 0, [], [("Enter", [oneLine "c", oneLine "d"])]⟩, oneLine "b"⟩

/-- An attempt fails. Its sink is still in use afterwards. -/
def firstFails : List (Act RehearsedSession) :=
  [.start "x", .push 0 (oneLine "x"), .fail (.engine "no"), .push 0 (oneLine "x")]

/-- The pushes during a second attempt, one of them on the sink of the first. -/
def secondPushes : List (Act RehearsedSession) :=
  [.push 1 (oneLine "early"), .push 1 (oneLine "a"), .push 0 (oneLine "x")]

/-- Both attempts, the second of which succeeds. -/
def secondWins : List (Act RehearsedSession) :=
  firstFails ++ .start "y" :: secondPushes ++ [.succeed twoFold]

/-- What happens to the session: a command and a push, and a push on the sink that is closed. -/
def inUse : List (Act RehearsedSession) :=
  [.push 0 (oneLine "x"), .input (.key "Enter"), .push 1 (oneLine "e")]

/-- Nothing is seen of the first attempt. The second one is seen with the last view it pushed, then
with what is read of its session; a command is seen with the two views pushed upon it and what is read
then; and nothing is seen once the controller has been given up. -/
theorem onlyWinner_run_of_second_attempt :
    ((run firstFails).board.current = .placeholder ∧ (run firstFails).board.count = 0) ∧
    (run firstFails).board.Publishes [] (run (firstFails ++ [.push 0 (oneLine "x")])).board ∧
    (run (firstFails ++ .start "y" :: secondPushes)).board.Publishes [oneLine "a", oneLine "b"]
      (run secondWins).board ∧
    (run secondWins).board.Publishes [oneLine "c", oneLine "d", oneLine "d", oneLine "e"]
      (run (secondWins ++ inUse)).board ∧
    (run (secondWins ++ inUse)).board.Publishes []
      (run (secondWins ++ inUse ++ .drop :: [.push 1 (oneLine "x")])).board ∧
    (run (secondWins ++ inUse ++ .drop :: [.push 1 (oneLine "x")])).board.published =
      [oneLine "e", oneLine "d", oneLine "d", oneLine "c", oneLine "b", oneLine "a"] := by
  have hnone : ∀ past session, past ++ [.succeed session] <+: firstFails →
      (run past).attempt? = none := by
    intro past session hp
    have hmem : Act.succeed session ∈ firstFails :=
      hp.subset (List.mem_append_right past (List.mem_singleton_self _))
    simp [firstFails] at hmem
  have hbefore := (onlyWinner_run firstFails).before hnone
  have hfailed := (onlyWinner_run (firstFails.take 2)).failed 0 rfl (.engine "no")
    [.push 0 (oneLine "x")] (oneLine "x")
  have hwinner := ((onlyWinner_run firstFails).winner 1 "y" secondPushes rfl rfl rfl twoFold).1
  have hafter := (onlyWinner_run secondWins).afterwards ⟨"y", twoFold, 1⟩ rfl inUse
  have hdropped := (onlyWinner_run (secondWins ++ inUse)).dropped [.push 1 (oneLine "x")]
  exact ⟨hbefore, hfailed, hwinner, hafter, hdropped, rfl⟩

/-! ## Lives of a room -/

/-- A room as a life. -/
def ofRoom (r : Room σ) : Life σ := .up r.controller (r.running.map fun a => (a.gate, a.resource))

theorem exists_acts_begin (engine : Engine σ) {r : Room σ} (hr : r.running = none)
    (hl : ¬ r.controller.isLoaded = true) (caller : CallerId) (resource : String) :
    ∃ acts : List (Act σ),
      acts.foldl act (ofRoom r) = ofRoom (r.begin engine caller resource) := by
  refine ⟨[.start resource], ?_⟩
  rw [ofRoom, hr]
  change (up r.controller none).act (.start resource) = _
  rw [act, if_neg hl]
  rfl

omit [Session σ] in
theorem ofRoom_of_running {r : Room σ} {a : Attempt σ} (h : r.running = some a) :
    ofRoom r = up r.controller (some (a.gate, a.resource)) := by
  rw [ofRoom, h]
  rfl

theorem exists_acts_enters {engine : Engine σ} {r r' : Room σ} {caller : CallerId}
    {resource : String} (he : r.Enters engine caller resource r') :
    ∃ acts : List (Act σ), acts.foldl act (ofRoom r) = ofRoom r' := by
  cases he with
  | dismissed => exact ⟨[], rfl⟩
  | waits => exact ⟨[], rfl⟩
  | begins unloaded running => exact exists_acts_begin engine running unloaded caller resource

theorem exists_acts_steps {engine : Engine σ} {r r' : Room σ} (hs : r.Steps engine r') :
    ∃ acts : List (Act σ), acts.foldl act (ofRoom r) = ofRoom r' := by
  cases hs with
  | idle => exact ⟨[], rfl⟩
  | @push a v next running =>
    rw [ofRoom_of_running running]
    exact ⟨[.push a.gate v], rfl⟩
  | suspend running =>
    rw [ofRoom_of_running running]
    exact ⟨[], rfl⟩
  | @finish a result running =>
    rw [ofRoom_of_running running]
    cases result with
    | ok session => exact ⟨[.succeed session], rfl⟩
    | error e => exact ⟨[.fail e], rfl⟩
  | dismiss => exact ⟨[], rfl⟩
  | @begin caller resource waiting running first unloaded =>
    exact exists_acts_begin (r := { r with waiting }) engine running unloaded caller resource

/-- **Whatever callers do in a room** is a life of its controller, so that the laws of lives hold
for all of them. -/
theorem exists_run_eq_ofRoom (engine : Engine σ) (events : List Lobby.Event) :
    ∃ acts : List (Act σ), run acts = ofRoom (Lobby.run engine events).room := by
  induction events using List.reverseRecOn with
  | nil => exact ⟨[], rfl⟩
  | append_singleton events event ih =>
    obtain ⟨acts, hacts⟩ := ih
    have hevent : ∃ more : List (Act σ), more.foldl act (ofRoom (Lobby.run engine events).room) =
        ofRoom ((Lobby.run engine events).happen engine event).room := by
      cases event with
      | step => exact exists_acts_steps (Room.steps_step engine _)
      | ask caller =>
        rw [Lobby.happen]
        split
        · exact ⟨[], rfl⟩
        · exact exists_acts_enters (Room.enters_enter engine _ _ _)
      | come request =>
        cases request with
        | input command => exact ⟨[.input command], rfl⟩
        | load resource =>
          rw [Lobby.happen]
          split
          · exact ⟨[], rfl⟩
          · exact ⟨[], rfl⟩
    obtain ⟨more, hmore⟩ := hevent
    refine ⟨acts ++ more, ?_⟩
    rw [run_append, hacts, hmore, Lobby.run, Lobby.run, List.foldl_append]
    rfl

end Life

end StoryPlayer
