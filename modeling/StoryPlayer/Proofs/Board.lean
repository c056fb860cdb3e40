import StoryPlayer.Board

/-!
# What a board does with a view offered to a gate

The gate decides: a pending one holds the view, an armed one publishes it, and a revoked one drops
it. Nothing that happens to one gate changes another, and gates are never taken away.

* `Board.Publishes`: which views are published between two boards, from which follows what the later
  one shows and counts.
* `Board.publishes_offer`, `Board.publishes_arm`, `Board.publishes_revoke`: one operation.
-/

namespace StoryPlayer

/-- A gate after a view has been offered to it. -/
def Gate.offered (v : View) : Gate → Gate
  | .pending _ => .pending (some v)
  | .armed => .armed
  | .revoked => .revoked

/-- A gate after it has been armed. -/
def Gate.opened : Gate → Gate
  | .pending _ => .armed
  | .armed => .armed
  | .revoked => .revoked

namespace Board

variable {b b' b'' : Board} {id other : GateId} {g : Gate} {v : View} {vs ws : List View}

/-! ## Publications -/

/-- Between the two boards exactly these views have been published, in this order. -/
structure Publishes (b : Board) (vs : List View) (b' : Board) : Prop where
  published : b'.published = vs.reverse ++ b.published

theorem Publishes.refl (b : Board) : Publishes b [] b := ⟨rfl⟩

theorem publishes_publish (b : Board) (v : View) : Publishes b [v] (b.publish v) := ⟨rfl⟩

theorem Publishes.trans (h : Publishes b vs b') (h' : Publishes b' ws b'') :
    Publishes b (vs ++ ws) b'' := by
  refine ⟨?_⟩
  rw [h'.published, h.published, List.reverse_append, List.append_assoc]

/-- The last view published is the one that everyone sees. -/
theorem Publishes.current (h : Publishes b vs b') : b'.current = vs.getLastD b.current := by
  rw [Board.current, Board.current, h.published, List.headD_eq_head?_getD, List.headD_eq_head?_getD,
    List.head?_append, List.head?_reverse, List.getLastD_eq_getLast?]
  cases vs.getLast? with
  | none => rfl
  | some v => rfl

theorem Publishes.count (h : Publishes b vs b') : b'.count = b.count + vs.length := by
  rw [Board.count, Board.count, h.published, List.length_append, List.length_reverse, Nat.add_comm]

/-- What has been published between two boards is what has been added to the first. -/
theorem Publishes.unique (h : Publishes b vs b') (h' : Publishes b ws b') : vs = ws := by
  have hsame : vs.reverse ++ b.published = ws.reverse ++ b.published := h.published.symm.trans h'.published
  exact List.reverse_inj.mp (List.append_cancel_right hsame)

/-! ## Gates -/

@[simp] theorem gates_publish (b : Board) (v : View) : (b.publish v).gates = b.gates := rfl

@[simp] theorem gates_setGate (b : Board) (id : GateId) (g : Gate) :
    (b.setGate id g).gates = b.gates.set id g := rfl

theorem publishes_setGate (b : Board) (id : GateId) (g : Gate) : Publishes b [] (b.setGate id g) :=
  ⟨rfl⟩

theorem publishes_openGate (b : Board) : Publishes b [] b.openGate.2 := ⟨rfl⟩

theorem gate_openGate (b : Board) : b.openGate.2.gates[b.openGate.1]? = some (.pending none) := by
  simp [openGate]

/-- A gate that is new is pending, and the others stay as they are. -/
theorem gate_openGate_eq (b : Board) (id : GateId) {g : Gate} (hg : g ≠ .pending none) :
    b.openGate.2.gates[id]? = some g ↔ b.gates[id]? = some g := by
  rw [openGate, List.getElem?_append]
  split
  · exact .rfl
  · rename_i hid
    rw [List.getElem?_eq_none (Nat.not_lt.mp hid)]
    constructor
    · intro h
      have hmem := List.mem_of_getElem? h
      exact absurd (List.mem_singleton.mp hmem) hg
    · intro h
      cases h

/-- A view offered is published by an armed gate only. -/
theorem publishes_offer (b : Board) (id : GateId) (v : View) :
    Publishes b (if b.gates[id]? = some .armed then [v] else []) (b.offer id v) := by
  rw [offer]
  cases h : b.gates[id]? with
  | none => exact .refl b
  | some g =>
    cases g with
    | pending held => exact publishes_setGate b id _
    | armed => exact publishes_publish b v
    | revoked => exact .refl b

/-- A view offered replaces the one that a pending gate holds, and touches no other gate. -/
theorem gates_offer (b : Board) (id : GateId) (v : View) :
    (b.offer id v).gates = b.gates.modify id (Gate.offered v) := by
  refine List.ext_getElem? fun other => ?_
  rw [List.getElem?_modify, offer]
  cases h : b.gates[id]? with
  | none =>
    by_cases ho : id = other
    · subst ho
      simp [h]
    · simp [ho]
  | some g =>
    obtain ⟨hid, -⟩ := List.getElem?_eq_some_iff.mp h
    by_cases ho : id = other
    · subst ho
      cases g with
      | pending held => simp only [gates_setGate, List.getElem?_set_self hid, h]; rfl
      | armed => simp only [gates_publish, h]; rfl
      | revoked => simp only [h]; rfl
    · cases g with
      | pending held => simp [List.getElem?_set_ne ho, ho]
      | armed => simp [ho]
      | revoked => simp [ho]

theorem length_gates_offer (b : Board) (id : GateId) (v : View) :
    (b.offer id v).gates.length = b.gates.length := by
  rw [gates_offer, List.length_modify]

theorem gate_offer (b : Board) (id other : GateId) (v : View) :
    (b.offer id v).gates[other]? =
      b.gates[other]?.map fun g => if id = other then g.offered v else g := by
  rw [gates_offer, List.getElem?_modify]
  rfl

theorem armed_offer_iff (b : Board) (id other : GateId) (v : View) :
    (b.offer id v).gates[other]? = some .armed ↔ b.gates[other]? = some .armed := by
  rw [gate_offer]
  cases b.gates[other]? with
  | none => simp
  | some g => cases g <;> by_cases ho : id = other <;> simp [ho, Gate.offered]

theorem revoked_offer_iff (b : Board) (id other : GateId) (v : View) :
    (b.offer id v).gates[other]? = some .revoked ↔ b.gates[other]? = some .revoked := by
  rw [gate_offer]
  cases b.gates[other]? with
  | none => simp
  | some g => cases g <;> by_cases ho : id = other <;> simp [ho, Gate.offered]

/-- Arming a pending gate publishes what it holds. -/
theorem publishes_arm {held : Option View} (h : b.gates[id]? = some (.pending held)) :
    Publishes b held.toList (b.arm id) := by
  rw [arm, h]
  cases held with
  | none => exact publishes_setGate b id .armed
  | some v => exact (publishes_setGate b id .armed).trans (publishes_publish _ v)

theorem gates_arm {held : Option View} (h : b.gates[id]? = some (.pending held)) :
    (b.arm id).gates = b.gates.set id .armed := by
  rw [arm, h]
  cases held with
  | none => rfl
  | some v => rfl

theorem gate_arm (b : Board) (id other : GateId) :
    (b.arm id).gates[other]? =
      b.gates[other]?.map fun g => if id = other then g.opened else g := by
  cases h : b.gates[id]? with
  | none =>
    have harm : b.arm id = b := by rw [arm, h]
    rw [harm]
    by_cases ho : id = other
    · rw [← ho, h]
      rfl
    · simp [ho]
  | some g =>
    obtain ⟨hid, -⟩ := List.getElem?_eq_some_iff.mp h
    cases g with
    | pending held =>
      rw [gates_arm h]
      by_cases ho : id = other
      · rw [← ho, List.getElem?_set_self hid, h, Option.map_some, if_pos rfl]
        rfl
      · simp [List.getElem?_set_ne ho, ho]
    | _ =>
      have harm : b.arm id = b := by rw [arm, h]
      rw [harm]
      by_cases ho : id = other
      · rw [← ho, h, Option.map_some, if_pos rfl]
        rfl
      · simp [ho]

theorem length_gates_arm (b : Board) (id : GateId) : (b.arm id).gates.length = b.gates.length := by
  rw [arm]
  split
  · rename_i held _
    cases held with
    | none => exact List.length_set
    | some v => exact List.length_set
  · rfl

theorem publishes_revoke (b : Board) (id : GateId) : Publishes b [] (b.revoke id) :=
  publishes_setGate b id .revoked

theorem length_gates_revoke (b : Board) (id : GateId) :
    (b.revoke id).gates.length = b.gates.length :=
  List.length_set

theorem gate_revoke (b : Board) (id other : GateId) :
    (b.revoke id).gates[other]? =
      if id = other then b.gates[other]?.map fun _ => .revoked else b.gates[other]? := by
  rw [revoke, gates_setGate, List.getElem?_set']
  rfl

theorem armed_revoke_iff (b : Board) (id other : GateId) :
    (b.revoke id).gates[other]? = some .armed ↔
      id ≠ other ∧ b.gates[other]? = some .armed := by
  rw [gate_revoke]
  split
  · rename_i h
    constructor
    · intro hg
      cases hb : b.gates[other]? <;> simp [hb] at hg
    · intro hg
      exact absurd h hg.1
  · rename_i h
    exact ⟨fun hg => ⟨h, hg⟩, fun hg => hg.2⟩

theorem revoked_revoke (h : b.gates[other]? = some .revoked) (id : GateId) :
    (b.revoke id).gates[other]? = some .revoked := by
  rw [gate_revoke, h]
  split
  · rfl
  · rfl

end Board

end StoryPlayer
