import StoryPlayer.Proofs.Board

/-!
# A board and its history

A board is used by many: some publish, some make gates and sinks, push on sinks, arm gates or revoke
them, and some look at it from time to time. All that can be seen of it is told by what has been
done, in whatever order: which gates are armed, what has been published, and who has yet to see it.

A history is kept latest first. Gates, sinks and readers are named by their places in the order in
which they were made, and a deed that names one that is not there does nothing.

* `Hall.ofHistory`: a board and all who use it, after a history.
* `History.gate?`, `History.publications`, `History.unseen`: what a history tells.
* `History.told`: it tells all.
-/

namespace StoryPlayer

/-- What can be done with a board. -/
inductive Deed where
  | publish (v : View)
  | openGate
  /-- Make a sink of a gate. -/
  | openSink (gate : GateId)
  /-- Make a sink that discards everything. -/
  | openDetached
  | push (sink : Nat) (v : View)
  | arm (gate : GateId)
  | revoke (gate : GateId)
  /-- Make a reader, who has seen what the board shows. -/
  | subscribe
  /-- A reader looks at the board. -/
  | look (reader : Nat)
  deriving DecidableEq

/-- A board with the sinks and readers that have been made. -/
structure Hall where
  board : Board
  sinks : List Sink
  readers : List Reader

/-- What has been done with a board, latest first. -/
abbrev History := List Deed

namespace Hall

def empty : Hall := ⟨.fresh, [], []⟩

def after (h : Hall) : Deed → Hall
  | .publish v => { h with board := h.board.publish v }
  | .openGate => { h with board := h.board.openGate.2 }
  | .openSink gate =>
    if gate < h.board.gates.length then { h with sinks := h.sinks ++ [.gate gate] } else h
  | .openDetached => { h with sinks := h.sinks ++ [.detached] }
  | .push sink v =>
    match h.sinks[sink]? with
    | some s => { h with board := h.board.push s v }
    | none => h
  | .arm gate => { h with board := h.board.arm gate }
  | .revoke gate => { h with board := h.board.revoke gate }
  | .subscribe => { h with readers := h.readers ++ [.subscribe h.board] }
  | .look reader => { h with readers := h.readers.set reader (.subscribe h.board) }

def ofHistory : History → Hall
  | [] => empty
  | d :: past => (ofHistory past).after d

end Hall

/-! ## What a history tells -/

namespace History

/-- How many gates have been made. -/
def gates (past : History) : Nat := past.count .openGate

/-- How many readers have been made. -/
def readers (past : History) : Nat := past.count .subscribe

/-- The sinks that have been made. -/
def sinks : History → List Sink
  | [] => []
  | .openSink gate :: past => if gate < gates past then sinks past ++ [.gate gate] else sinks past
  | .openDetached :: past => sinks past ++ [.detached]
  | _ :: past => sinks past

/-- Whether something has been done since a gate was made. -/
def has (d : Deed) (id : GateId) : History → Bool
  | [] => false
  | other :: past => (other = d && id < gates past) || has d id past

/-- The views that have been pushed on the sinks of a gate, in order. -/
def pushes (id : GateId) : History → List View
  | [] => []
  | .push sink v :: past =>
    if (sinks past)[sink]? = some (.gate id) then pushes id past ++ [v] else pushes id past
  | _ :: past => pushes id past

/-- The state of a gate, if it has been made: once it has been revoked it is so for good, else it is
armed if it has ever been armed, and otherwise it holds the last view that has been pushed. -/
def gate? (past : History) (id : GateId) : Option Gate :=
  if id < past.gates then
    some <|
      if past.has (.revoke id) id then .revoked
      else if past.has (.arm id) id then .armed
      else .pending (past.pushes id).getLast?
  else none

/-- The views that a deed publishes after a history. -/
def effect (past : History) : Deed → List View
  | .publish v => [v]
  | .push sink v =>
    match past.sinks[sink]? with
    | some (.gate id) => if past.gate? id = some .armed then [v] else []
    | _ => []
  | .arm id =>
    match past.gate? id with
    | some (.pending held) => held.toList
    | _ => []
  | _ => []

/-- The views that have been published, in order. -/
def publications : History → List View
  | [] => []
  | d :: past => publications past ++ effect past d

/-- The views that have been published since a reader was made or last looked, in order. -/
def unseen (reader : Nat) : History → Option (List View)
  | [] => none
  | d :: past =>
    match d with
    | .subscribe => if reader = readers past then some [] else unseen reader past
    | .look other =>
      if other = reader then (unseen reader past).map fun _ => [] else unseen reader past
    | d => (unseen reader past).map (· ++ effect past d)

end History

/-- The gate that a sink pushes through. -/
def Sink.gate? : Sink → Option GateId
  | .detached => none
  | .gate id => some id

/-- The gate that a deed is done to, given the sinks that there are. -/
def Deed.gate? (sinks : List Sink) : Deed → Option GateId
  | .push sink _ => sinks[sink]?.bind Sink.gate?
  | .arm id | .revoke id => some id
  | _ => none

/-- A gate after a deed that is done to it. -/
def Gate.after (g : Gate) : Deed → Gate
  | .push _ v => g.offered v
  | .arm _ => g.opened
  | .revoke _ => .revoked
  | _ => g

/-! ## Gates -/

theorem Hall.gate_after (h : Hall) {id : GateId} (hid : id < h.board.gates.length) (d : Deed) :
    (h.after d).board.gates[id]? =
      h.board.gates[id]?.map fun g => if d.gate? h.sinks = some id then g.after d else g := by
  cases d with
  | push sink v =>
    cases hs : h.sinks[sink]? with
    | none => simp [after, Deed.gate?, hs]
    | some s =>
      cases s with
      | detached => simp [after, Deed.gate?, hs, Board.push, Sink.gate?]
      | gate other => simp [after, Deed.gate?, hs, Board.push, Board.gate_offer, Sink.gate?, Gate.after]
  | arm other => simp [after, Deed.gate?, Board.gate_arm, Gate.after]
  | revoke other =>
    rw [after, Board.gate_revoke]
    by_cases ho : other = id
    · simp [ho, Deed.gate?, Gate.after]
    · simp [ho, Deed.gate?]
  | openGate => simp [after, Deed.gate?, Board.openGate, List.getElem?_append_left hid]
  | openSink gate =>
    rw [after]
    split
    · simp [Deed.gate?]
    · simp [Deed.gate?]
  | _ => simp [after, Deed.gate?]

namespace History

variable {past : History} {id : GateId} {d : Deed}

theorem gates_cons (d : Deed) (past : History) :
    gates (d :: past) = gates past + if d = .openGate then 1 else 0 := by
  rw [gates, gates, List.count_cons]
  simp

theorem gates_le_cons (d : Deed) (past : History) : gates past ≤ gates (d :: past) := by
  rw [gates_cons]
  exact Nat.le_add_right _ _

/-- Nothing has been done to a gate that has not been made. -/
theorem has_of_le (h : past.gates ≤ id) (d : Deed) : past.has d id = false := by
  induction past with
  | nil => rfl
  | cons other past ih =>
    have hpast := Nat.le_trans (gates_le_cons other past) h
    rw [has, ih hpast, decide_eq_false (Nat.not_lt.mpr hpast), Bool.and_false]
    rfl

theorem lt_gates_of_mem_sinks (h : .gate id ∈ sinks past) : id < past.gates := by
  induction past with
  | nil => cases h
  | cons d past ih =>
    refine Nat.lt_of_lt_of_le ?_ (gates_le_cons d past)
    cases d with
    | openSink other =>
      rw [sinks] at h
      split at h
      · rename_i hlt
        rcases List.mem_append.mp h with h | h
        · exact ih h
        · cases List.mem_singleton.mp h
          exact hlt
      · exact ih h
    | openDetached =>
      rcases List.mem_append.mp h with h | h
      · exact ih h
      · cases List.mem_singleton.mp h
    | _ => exact ih h

theorem pushes_of_le (h : past.gates ≤ id) : past.pushes id = [] := by
  induction past with
  | nil => rfl
  | cons d past ih =>
    have hpast := Nat.le_trans (gates_le_cons d past) h
    cases d with
    | push sink v =>
      rw [pushes, if_neg, ih hpast]
      intro hs
      exact absurd (lt_gates_of_mem_sinks (List.mem_of_getElem? hs)) (Nat.not_lt.mpr hpast)
    | _ => exact ih hpast

theorem gate?_of_lt (h : id < past.gates) :
    past.gate? id = some (if past.has (.revoke id) id then .revoked
      else if past.has (.arm id) id then .armed else .pending (past.pushes id).getLast?) :=
  if_pos h

theorem gate?_of_le (h : past.gates ≤ id) : past.gate? id = none := if_neg (Nat.not_lt.mpr h)

/-- A gate that is made is pending and holds nothing. -/
theorem gate?_openGate (past : History) :
    gate? (.openGate :: past) past.gates = some (.pending none) := by
  have hlt : past.gates < gates (.openGate :: past) := by
    rw [gates_cons]
    exact Nat.lt_succ_self _
  have hpushes : pushes past.gates (.openGate :: past) = [] := by
    show past.pushes past.gates = []
    exact pushes_of_le (Nat.le_refl _)
  rw [gate?_of_lt hlt, has, has, has_of_le (Nat.le_refl _), has_of_le (Nat.le_refl _), hpushes]
  rfl

/-- What a deed does to a gate that has been made. -/
theorem gate?_cons (h : id < past.gates) (d : Deed) :
    gate? (d :: past) id =
      (past.gate? id).map fun g => if d.gate? (sinks past) = some id then g.after d else g := by
  rw [gate?_of_lt h, gate?_of_lt (Nat.lt_of_lt_of_le h (gates_le_cons d past)), Option.map_some]
  congr 1
  cases d with
  | push sink v =>
    have hgate : (Deed.push sink v).gate? (sinks past) = some id ↔
        (sinks past)[sink]? = some (.gate id) := by
      rw [Deed.gate?, Option.bind_eq_some_iff]
      constructor
      · rintro ⟨s, hs, hid⟩
        cases s with
        | detached => cases hid
        | gate other =>
          cases hid
          exact hs
      · intro hs
        exact ⟨_, hs, rfl⟩
    by_cases hs : (sinks past)[sink]? = some (.gate id)
    · cases hr : has (.revoke id) id past <;> cases ha : has (.arm id) id past <;>
        simp [has, pushes, hgate, hr, ha, hs, Gate.after, Gate.offered]
    · simp [has, pushes, hgate, hs]
  | arm other =>
    by_cases ho : other = id
    · cases hr : has (.revoke id) id past <;> cases ha : has (.arm id) id past <;>
        simp [has, Deed.gate?, hr, ha, ho, h, Gate.after, Gate.opened]
    · simp [has, pushes, Deed.gate?, ho]
  | revoke other =>
    by_cases ho : other = id
    · simp [has, Deed.gate?, ho, h, Gate.after]
    · simp [has, pushes, Deed.gate?, ho]
  | _ => simp [has, pushes, Deed.gate?]

/-! ## The hall and its history -/

open Hall (ofHistory)

theorem length_gates_ofHistory (past : History) :
    (ofHistory past).board.gates.length = past.gates := by
  induction past with
  | nil => rfl
  | cons d past ih =>
    rw [gates_cons, ← ih, ofHistory]
    cases d with
    | openGate => simp [Hall.after, Board.openGate]
    | openSink gate =>
      rw [Hall.after]
      split
      · rfl
      · rfl
    | push sink v =>
      rw [Hall.after]
      cases (ofHistory past).sinks[sink]? with
      | none => rfl
      | some s =>
        cases s with
        | detached => rfl
        | gate id => exact Board.length_gates_offer _ id v
    | arm id => exact Board.length_gates_arm _ id
    | revoke id => exact Board.length_gates_revoke _ id
    | _ => rfl

theorem sinks_ofHistory (past : History) : (ofHistory past).sinks = past.sinks := by
  induction past with
  | nil => rfl
  | cons d past ih =>
    cases d with
    | openSink gate =>
      rw [ofHistory, Hall.after, sinks, length_gates_ofHistory, ← ih]
      split
      · rfl
      · rfl
    | openDetached => exact congrArg (· ++ [Sink.detached]) ih
    | push sink v =>
      rw [ofHistory, Hall.after]
      split
      · exact ih
      · exact ih
    | _ => exact ih

theorem gate_ofHistory (past : History) (id : GateId) :
    (ofHistory past).board.gates[id]? = past.gate? id := by
  induction past with
  | nil => rfl
  | cons d past ih =>
    rcases Nat.lt_or_ge id (gates past) with hlt | hle
    · rw [gate?_cons hlt, ← ih, ← sinks_ofHistory, ofHistory, Hall.gate_after]
      rw [length_gates_ofHistory]
      exact hlt
    · rcases Nat.lt_or_ge id (gates (d :: past)) with hnew | hle'
      · -- The gate has just been made.
        by_cases hd : d = .openGate
        · subst hd
          rw [gates_cons, if_pos rfl] at hnew
          obtain rfl : id = gates past := Nat.le_antisymm (Nat.le_of_lt_succ hnew) hle
          rw [gate?_openGate, ← length_gates_ofHistory]
          exact Board.gate_openGate _
        · rw [gates_cons, if_neg hd] at hnew
          exact absurd hnew (Nat.not_lt.mpr hle)
      · rw [gate?_of_le hle', List.getElem?_eq_none_iff, length_gates_ofHistory]
        exact hle'

/-- What a deed publishes. -/
theorem publishes_cons (d : Deed) (past : History) :
    (ofHistory past).board.Publishes (past.effect d) (ofHistory (d :: past)).board := by
  rw [ofHistory]
  cases d with
  | publish v => exact Board.publishes_publish _ v
  | openGate => exact Board.publishes_openGate _
  | openSink gate =>
    rw [Hall.after]
    split
    · exact .refl _
    · exact .refl _
  | push sink v =>
    rw [Hall.after, effect, sinks_ofHistory]
    cases past.sinks[sink]? with
    | none => exact .refl _
    | some s =>
      cases s with
      | detached => exact .refl _
      | gate id =>
        have hoffer := Board.publishes_offer (ofHistory past).board id v
        rw [gate_ofHistory] at hoffer
        exact hoffer
  | arm id =>
    rw [Hall.after, effect, ← gate_ofHistory]
    cases hg : (ofHistory past).board.gates[id]? with
    | none =>
      have harm : (ofHistory past).board.arm id = (ofHistory past).board := by rw [Board.arm, hg]
      rw [harm]
      exact .refl _
    | some g =>
      cases g with
      | pending held => exact Board.publishes_arm hg
      | _ =>
        have harm : (ofHistory past).board.arm id = (ofHistory past).board := by rw [Board.arm, hg]
        rw [harm]
        exact .refl _
  | revoke id => exact Board.publishes_revoke _ id
  | _ => exact .refl _

theorem publishes_ofHistory (past : History) :
    Board.fresh.Publishes past.publications (ofHistory past).board := by
  induction past with
  | nil => exact .refl _
  | cons d past ih => exact ih.trans (publishes_cons d past)

/-! ## Readers -/

/-- Only readers change what readers have seen. -/
theorem readers_after (h : Hall) {d : Deed} (hs : d ≠ .subscribe) (hl : ∀ r, d ≠ .look r) :
    (h.after d).readers = h.readers := by
  cases d with
  | subscribe => exact absurd rfl hs
  | look r => exact absurd rfl (hl r)
  | openSink gate =>
    rw [Hall.after]
    split
    · rfl
    · rfl
  | push sink v =>
    rw [Hall.after]
    split
    · rfl
    · rfl
  | _ => rfl

theorem length_readers_ofHistory (past : History) :
    (ofHistory past).readers.length = past.readers := by
  induction past with
  | nil => rfl
  | cons d past ih =>
    rw [readers, List.count_cons, ← readers, ← ih, ofHistory]
    cases d with
    | subscribe => simp [Hall.after]
    | look reader => simp [Hall.after]
    | _ => exact congrArg List.length (readers_after _ nofun nofun)

/-- A reader has yet to see these views, the last of all that have been published. -/
inductive Behind (count : Nat) : Option Reader → Option (List View) → Prop
  | nobody : Behind count none none
  | reader {r : Reader} {views : List View} (h : r.seen + views.length = count) :
    Behind count (some r) (some views)

theorem Behind.publish {b b' : Board} {r : Option Reader} {views : Option (List View)}
    {more : List View} (h : Behind b.count r views) (hp : b.Publishes more b') :
    Behind b'.count r (views.map (· ++ more)) := by
  cases h with
  | nobody => exact .nobody
  | reader h =>
    refine .reader ?_
    rw [hp.count, List.length_append, ← h]
    omega

/-- A reader who looks has seen everything. -/
theorem Behind.look {b : Board} {r : Option Reader} {views : Option (List View)}
    (h : Behind b.count r views) :
    Behind b.count (r.map fun _ => .subscribe b) (views.map fun _ => []) := by
  cases h with
  | nobody => exact .nobody
  | reader h => exact .reader rfl

theorem behind_ofHistory (past : History) (reader : Nat) :
    Behind (ofHistory past).board.count (ofHistory past).readers[reader]?
      (past.unseen reader) := by
  induction past with
  | nil => exact .nobody
  | cons d past ih =>
    have hother (hs : d ≠ .subscribe) (hl : ∀ r, d ≠ .look r) :
        Behind (ofHistory (d :: past)).board.count (ofHistory (d :: past)).readers[reader]?
          ((unseen reader past).map (· ++ effect past d)) := by
      rw [ofHistory, readers_after _ hs hl]
      exact ih.publish (publishes_cons d past)
    cases d with
    | subscribe =>
      rw [unseen, ← length_readers_ofHistory]
      change Behind (ofHistory past).board.count
        ((ofHistory past).readers ++ [.subscribe (ofHistory past).board])[reader]? _
      split
      · rename_i hnew
        rw [hnew, List.getElem?_concat_length]
        exact .reader rfl
      · rename_i hold
        rw [List.getElem?_append]
        split
        · exact ih
        · rename_i hge
          rw [List.getElem?_eq_none (Nat.not_lt.mp hge)] at ih
          rw [List.getElem?_eq_none (by simp; omega)]
          exact ih
    | look other =>
      rw [unseen]
      change Behind (ofHistory past).board.count
        ((ofHistory past).readers.set other (.subscribe (ofHistory past).board))[reader]? _
      split
      · rename_i hself
        rw [hself, List.getElem?_set_self']
        exact ih.look
      · rename_i hself
        rw [List.getElem?_set_ne hself]
        exact ih
    | _ => exact hother nofun nofun

theorem hasNews_ofHistory (past : History) (reader : Nat) :
    (ofHistory past).readers[reader]?.map (·.hasNews (ofHistory past).board) =
      (past.unseen reader).map fun views => decide (views ≠ []) := by
  have hbehind := behind_ofHistory past reader
  revert hbehind
  generalize (ofHistory past).readers[reader]? = r
  generalize past.unseen reader = views
  intro hbehind
  cases hbehind with
  | nobody => rfl
  | @reader r views h =>
    rw [Option.map_some, Option.map_some, Reader.hasNews, ← h]
    cases views with
    | nil => simp
    | cons v rest => simp

/-! ## All that a history tells -/

/-- A revoked gate stays as it is. -/
theorem gate_append_of_revoked {id : GateId}
    (h : (ofHistory past).board.gates[id]? = some .revoked) (later : History) :
    (ofHistory (later ++ past)).board.gates[id]? = some .revoked := by
  induction later with
  | nil => exact h
  | cons d later ih =>
    obtain ⟨hid, -⟩ := List.getElem?_eq_some_iff.mp ih
    rw [List.cons_append, ofHistory, Hall.gate_after _ hid, ih, Option.map_some]
    cases d <;> simp [Gate.after, Gate.offered, Gate.opened]

/-- Nothing that is done to a revoked gate has any effect. -/
theorem ofHistory_cons_of_revoked {id : GateId} {d : Deed}
    (h : (ofHistory past).board.gates[id]? = some .revoked)
    (hd : d.gate? (ofHistory past).sinks = some id) : ofHistory (d :: past) = ofHistory past := by
  rw [ofHistory]
  cases d with
  | push sink v =>
    obtain ⟨s, hs, hid⟩ := Option.bind_eq_some_iff.mp hd
    cases s with
    | detached => cases hid
    | gate other =>
      cases hid
      rw [Hall.after, hs]
      simp only [Board.push, Board.offer, h]
  | arm other =>
    cases hd
    rw [Hall.after, Board.arm, h]
  | revoke other =>
    cases hd
    obtain ⟨hlt, hget⟩ := List.getElem?_eq_some_iff.mp h
    rw [Hall.after, Board.revoke, Board.setGate, ← hget, List.set_getElem_self hlt]
  | _ => cases hd

/-- What a history tells of a board, of its gates, sinks and readers. -/
structure Told (past : History) : Prop where
  /-- A gate is pending and holds nothing when it is made. -/
  opened : (ofHistory (.openGate :: past)).board.gates[past.gates]? = some (.pending none)
  /-- It is changed by what is done to it, and by nothing else. -/
  changed : ∀ id < past.gates, ∀ d, (ofHistory (d :: past)).board.gates[id]? =
    (ofHistory past).board.gates[id]?.map fun g =>
      if d.gate? (ofHistory past).sinks = some id then g.after d else g
  /-- So its state is told by what has been done since it was made. -/
  gate : ∀ id, (ofHistory past).board.gates[id]? = past.gate? id
  /-- Once it has been revoked it is so for good, and nothing that is done to it has any effect. -/
  final : ∀ id, (ofHistory past).board.gates[id]? = some .revoked →
    (∀ later, (ofHistory (later ++ past)).board.gates[id]? = some .revoked) ∧
    ∀ d, d.gate? (ofHistory past).sinks = some id → ofHistory (d :: past) = ofHistory past
  sinks : (ofHistory past).sinks = past.sinks
  /-- It does not matter on which of its sinks a view is pushed. -/
  alike : ∀ id i j, past.sinks[i]? = some (.gate id) → past.sinks[j]? = some (.gate id) →
    ∀ v later, ofHistory (later ++ .push i v :: past) = ofHistory (later ++ .push j v :: past)
  /-- The board shows the last publication, or the placeholder if there is none. -/
  current : (ofHistory past).board.current = past.publications.getLastD .placeholder
  count : (ofHistory past).board.count = past.publications.length
  /-- A reader has news if something has been published since the reader last looked. -/
  reader : ∀ reader, (ofHistory past).readers[reader]?.map (·.hasNews (ofHistory past).board) =
    (past.unseen reader).map fun views => decide (views ≠ [])

/-- **All that can be seen of a board is told by its history:** the states of its gates, what it
shows, how often something has been published, and which readers have news. -/
theorem told (past : History) : Told past where
  opened := (gate_ofHistory (.openGate :: past) past.gates).trans (gate?_openGate past)
  changed := by
    intro id hid d
    exact Hall.gate_after _ (length_gates_ofHistory past ▸ hid) d
  gate := gate_ofHistory past
  final := by
    intro id h
    exact ⟨gate_append_of_revoked h, fun d hd => ofHistory_cons_of_revoked h hd⟩
  sinks := sinks_ofHistory past
  alike := by
    intro id i j hi hj v later
    rw [← sinks_ofHistory] at hi hj
    induction later with
    | nil =>
      change (ofHistory past).after (.push i v) = (ofHistory past).after (.push j v)
      rw [Hall.after, Hall.after, hi, hj]
    | cons d later ih => exact congrArg (Hall.after · d) ih
  current := (publishes_ofHistory past).current
  count := (publishes_ofHistory past).count.trans (Nat.zero_add _)
  reader := hasNews_ofHistory past

/-- A gate publishes the last view that it was offered when it is armed, and nothing once it has been
revoked. -/
example (u v w x : View) :
    publications [.push 0 x, .revoke 0, .push 0 w, .arm 0, .arm 0, .push 1 v, .push 0 u,
      .openSink 0, .openSink 0, .openGate] = [v, w] :=
  rfl

end History

end StoryPlayer
