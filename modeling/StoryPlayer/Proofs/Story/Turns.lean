import StoryPlayer.Story

/-!
# A story turn by turn

A reader sees a story where it stops: at its waits and at its end. Each command to go on takes the
story to its next turn, until the last one is reached; from there on nothing moves it.

* `Story.later`: the story after some commands to go on.
* `Story.turns`: the story at each place where it stops, from here on.
* `Story.getElem?_turns`: commands lead through the turns, one each, and stay at the last.
-/

namespace StoryPlayer

open Script (Token)

namespace Story

/-- Go on if there is something left to play, and tell whether there was. -/
def advance (s : Story) : Bool × Story :=
  match s.advance? with
  | some next => (true, next)
  | none => (false, s)

/-- The story after it has been told this many times to go on. -/
def later (s : Story) : Nat → Story
  | 0 => s
  | k + 1 => (s.later k).advance.2

variable {s next : Story} {k : Nat}

theorem advance_of_eq_none (h : s.advance? = none) : s.advance = (false, s) := by
  rw [advance, h]

theorem advance_of_eq_some (h : s.advance? = some next) : s.advance = (true, next) := by
  rw [advance, h]

theorem advance?_eq_none_iff : s.advance? = none ↔ s.isFinished = true := by
  rw [advance?]
  split
  · rename_i h
    exact ⟨fun _ => h, fun _ => rfl⟩
  · rename_i h
    exact ⟨nofun, fun hf => absurd hf h⟩

/-- The first token is played, and what is left stands behind it. -/
theorem rest_play_cons_suffix (stage : Stage) (first : Token) (rest : List Token) :
    (play stage (first :: rest)).rest <:+ rest := by
  induction rest generalizing stage first with
  | nil =>
    rw [play]
    cases wait? first with
    | some w => exact List.suffix_rfl
    | none => exact List.suffix_rfl
  | cons next rest ih =>
    rw [play]
    cases wait? first with
    | some w => exact List.suffix_rfl
    | none => exact (ih _ _).trans (List.suffix_cons next rest)

/-- Whoever goes on has one token less to play, at least. -/
theorem length_rest_advance_lt (h : s.advance? = some next) :
    next.rest.length < s.rest.length := by
  rw [advance?] at h
  split at h
  · cases h
  · rename_i hf
    cases h
    cases hr : s.rest with
    | nil => exact absurd (by rw [isFinished, hr]; rfl) hf
    | cons t rest => exact Nat.lt_succ_of_le (rest_play_cons_suffix _ t rest).length_le

/-- The story here and at each place where it stops later. -/
def turns (s : Story) : List Story :=
  s ::
    match _h : s.advance? with
    | some next => next.turns
    | none => []
termination_by s.rest.length
decreasing_by exact length_rest_advance_lt _h

/-- What is visible at each turn. -/
def views (s : Story) : List View := s.turns.map Story.view

/-- The number of the last turn, counted from 0. -/
def lastTurn (s : Story) : Nat := s.turns.length - 1

theorem turns_of_eq_none (h : s.advance? = none) : s.turns = [s] := by
  rw [turns]
  split
  · rename_i hs
    cases h.symm.trans hs
  · rfl

theorem turns_of_eq_some (h : s.advance? = some next) : s.turns = s :: next.turns := by
  rw [turns]
  split
  · rename_i hs
    cases h.symm.trans hs
    rfl
  · rename_i hs
    cases h.symm.trans hs

theorem turns_ne_nil (s : Story) : s.turns ≠ [] := by
  rw [turns]
  exact List.cons_ne_nil _ _

theorem length_turns (s : Story) : s.turns.length = s.lastTurn + 1 := by
  have hpos := List.length_pos_iff.mpr s.turns_ne_nil
  rw [lastTurn]
  omega

theorem lastTurn_of_eq_none (h : s.advance? = none) : s.lastTurn = 0 := by
  rw [lastTurn, turns_of_eq_none h]
  rfl

theorem lastTurn_of_eq_some (h : s.advance? = some next) : s.lastTurn = next.lastTurn + 1 := by
  rw [lastTurn, turns_of_eq_some h]
  exact next.length_turns

/-! ## Going on -/

theorem later_succ_of_eq_some (h : s.advance? = some next) (k : Nat) :
    s.later (k + 1) = next.later k := by
  induction k with
  | zero => rw [later, later, later, advance_of_eq_some h]
  | succ k ih => rw [later, ih, later]

theorem later_of_eq_none (h : s.advance? = none) (k : Nat) : s.later k = s := by
  induction k with
  | zero => rfl
  | succ k ih => rw [later, ih, advance_of_eq_none h]

/-- **Commands lead through the turns of a story**, one each, and stay at the last one. -/
theorem getElem?_turns (s : Story) (k : Nat) : s.turns[min k s.lastTurn]? = some (s.later k) := by
  induction k generalizing s with
  | zero =>
    rw [Nat.zero_min, turns]
    rfl
  | succ k ih =>
    cases h : s.advance? with
    | none =>
      rw [lastTurn_of_eq_none h, turns_of_eq_none h, later_of_eq_none h]
      rfl
    | some next =>
      rw [lastTurn_of_eq_some h, turns_of_eq_some h, later_succ_of_eq_some h, Nat.add_min_add_right,
        List.getElem?_cons_succ]
      exact ih next

/-- A story is over from its last turn on. -/
theorem isFinished_later_iff (s : Story) (k : Nat) :
    (s.later k).isFinished = true ↔ s.lastTurn ≤ k := by
  induction k generalizing s with
  | zero =>
    rw [← advance?_eq_none_iff, later]
    cases h : s.advance? with
    | none => simp [lastTurn_of_eq_none h]
    | some next => simp [lastTurn_of_eq_some h]
  | succ k ih =>
    cases h : s.advance? with
    | none =>
      rw [later_of_eq_none h, lastTurn_of_eq_none h, ← advance?_eq_none_iff]
      exact ⟨fun _ => Nat.zero_le _, fun _ => h⟩
    | some next =>
      rw [later_succ_of_eq_some h, lastTurn_of_eq_some h, Nat.add_le_add_iff_right]
      exact ih next

/-- Going on finds something to play as long as there is a turn to come. -/
theorem advance_later_fst_iff (s : Story) (k : Nat) :
    (s.later k).advance.1 = true ↔ k < s.lastTurn := by
  rw [← Nat.not_le, ← isFinished_later_iff, ← advance?_eq_none_iff]
  cases h : (s.later k).advance? with
  | none => simp [advance_of_eq_none h]
  | some next => simp [advance_of_eq_some h]

theorem advance_snd_of_fst_eq_false (h : s.advance.1 = false) : s.advance.2 = s := by
  cases ha : s.advance? with
  | none => rw [advance_of_eq_none ha]
  | some next =>
    rw [advance_of_eq_some ha] at h
    cases h

/-! ## What is visible -/

theorem length_views (s : Story) : s.views.length = s.lastTurn + 1 := by
  rw [views, List.length_map, length_turns]

theorem getElem?_views (s : Story) (k : Nat) :
    s.views[min k s.lastTurn]? = some (s.later k).view := by
  rw [views, List.getElem?_map, getElem?_turns]
  rfl

/-- A command to go on shows the next view, if there is one. -/
theorem getElem?_views_succ (s : Story) (k : Nat) :
    s.views[k + 1]? = if (s.later k).isFinished then none else some (s.later (k + 1)).view := by
  split
  · rename_i h
    rw [isFinished_later_iff] at h
    rw [List.getElem?_eq_none_iff, length_views]
    omega
  · rename_i h
    rw [isFinished_later_iff] at h
    rw [← getElem?_views, Nat.min_eq_left (by omega)]

end Story

end StoryPlayer
