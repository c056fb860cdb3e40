import Mathlib.Data.List.Induction
import StoryPlayer.Proofs.App.Listening
import StoryPlayer.Proofs.App.Rooms
import StoryPlayer.Proofs.Text.Lines

/-!
# What is done with the rooms of a player

Which events end the player, mount its story anew or are for the story depends on the bindings
alone. So does what is done with the room of each mount, whatever the rooms make of it.

* `KeyBindings.purposeOf`: what an event is for.
* `Bill`: what is done with the rooms, mount by mount.
* `Bill.commands_of`: each mount gets the translations of the events of its time.
-/

namespace StoryPlayer

open Device (Event Trigger)

/-! ## What events are for -/

/-- What an event is for. -/
inductive Purpose where
  /-- The player ends: the quit key, or `Ctrl-c`. -/
  | quit
  /-- The story is mounted anew: a press of the reload key. -/
  | reload
  /-- Nothing: the reload key is repeated or released. -/
  | nothing
  /-- The screen is drawn anew. -/
  | resize
  /-- It is for the story. -/
  | story
  deriving DecidableEq

/-- What an event is for under some bindings. A key that is bound twice quits. -/
def KeyBindings.purposeOf (b : KeyBindings) : Event → Purpose
  | .key k =>
    if k.code = .char 'c' ∧ k.modifiers.control ∨ Device.answersTo k b.quit then .quit
    else if Device.answersTo k b.reload then if k.kind = .press then .reload else .nothing
    else .story
  | .resize _ _ => .resize
  | _ => .story

/-- The command that the story gets of an event. -/
def KeyBindings.storyCommand? (b : KeyBindings) (trigger : Trigger) (e : Event) : Option Command :=
  if b.purposeOf e = .story then e.command? trigger else none

namespace Happening

variable {σ : Type}

def event? : Happening σ → Option Event
  | .event e => some e
  | _ => none

/-- Whether the player ends with this. -/
def quits (b : KeyBindings) : Happening σ → Bool
  | .event e => b.purposeOf e = .quit
  | _ => false

/-- What the player takes before it ends. -/
def taken (b : KeyBindings) (happenings : List (Happening σ)) : List (Happening σ) :=
  happenings.takeWhile fun h => !h.quits b

/-- The events among it. -/
def eventsTaken (b : KeyBindings) (happenings : List (Happening σ)) : List Event :=
  (taken b happenings).filterMap event?

end Happening

/-! ## What is done with the rooms -/

/-- What is done with a room of the player. -/
inductive RoomAct (σ : Type) where
  | command (c : Command)
  /-- Its loading goes on. -/
  | work (engine : Engine σ)
  /-- Its mount is given up. -/
  | abandon

namespace RoomAct

variable {σ : Type}

def command? : RoomAct σ → Option Command
  | .command c => some c
  | _ => none

def on [Session σ] (r : Room σ) : RoomAct σ → Room σ
  | .command c => { r with controller := (r.controller.handle c).1 }
  | .work engine => r.step engine
  | .abandon => r.left

/-- A room of this story after all that has been done with it. -/
def roomAfter [Session σ] (resource : String) (acts : List (RoomAct σ)) : Room σ :=
  acts.foldl on (App.roomFor resource)

theorem roomAfter_append [Session σ] (resource : String) (acts more : List (RoomAct σ)) :
    roomAfter resource (acts ++ more) = more.foldl on (roomAfter resource acts) :=
  List.foldl_append

/-- Whatever is done with a room, it remains tidy. -/
theorem tidy_roomAfter [Session σ] (resource : String) (acts : List (RoomAct σ)) :
    (roomAfter resource acts).Tidy := by
  induction acts using List.reverseRecOn with
  | nil => exact Room.tidy_roomFor resource
  | append_singleton acts act ih =>
    rw [roomAfter_append]
    cases act with
    | command c => exact ih.handle c
    | work engine => exact ih.steps (Room.steps_step engine _)
    | abandon => exact ih.left

end RoomAct

/-- What is done with the rooms of the mounts, one mount after another. -/
structure Bill (σ : Type) where
  earlier : List (List (RoomAct σ))
  current : List (RoomAct σ)

namespace Bill

variable {σ : Type} (b : KeyBindings) (trigger : Trigger)

/-- A happening concerns the mount of its time, a loading that is left behind excepted: it goes on, and
when it is over, its room is given up for good. -/
def after (bill : Bill σ) : Happening σ → Bill σ
  | .event e =>
    match b.purposeOf e with
    | .reload => ⟨bill.earlier ++ [bill.current ++ [.abandon]], []⟩
    | .story =>
      { bill with current := bill.current ++ ((e.command? trigger).map RoomAct.command).toList }
    | _ => bill
  | .work engine => { bill with current := bill.current ++ [.work engine] }
  | .strayWork mount engine =>
    { bill with earlier := bill.earlier.modify mount (· ++ [.work engine, .abandon]) }
  | _ => bill

/-- What is done upon some happenings. -/
def of (happenings : List (Happening σ)) : Bill σ := happenings.foldl (after b trigger) ⟨[], []⟩

/-- The commands that the rooms get, mount by mount. -/
def commands (bill : Bill σ) : List (List Command) :=
  (bill.earlier ++ [bill.current]).map (·.filterMap RoomAct.command?)

/-- What the player does with its rooms upon some happenings, on a terminal that reports key
releases or not. -/
def played (releases : Bool) (happenings : List (Happening σ)) : Bill σ :=
  of b (.ofReports releases) (Happening.taken b happenings)

theorem of_concat (happenings : List (Happening σ)) (h : Happening σ) :
    of b trigger (happenings ++ [h]) = (of b trigger happenings).after b trigger h := by
  rw [of, List.foldl_append]
  rfl

/-- The translations of some events, as far as they are for the story. -/
def translations (events : List Event) : List Command :=
  events.filterMap (b.storyCommand? trigger)

/-- Whether an event mounts the story anew. -/
def reloads (e : Event) : Bool := b.purposeOf e = .reload

theorem map_modify {α β : Type} {f : α → α} {f' : β → β} {g : α → β} (h : ∀ x, g (f x) = f' (g x))
    (l : List α) (i : Nat) : (l.modify i f).map g = (l.map g).modify i f' := by
  refine List.ext_getElem? fun j => ?_
  rw [List.getElem?_map, List.getElem?_modify, List.getElem?_modify, List.getElem?_map]
  cases l[j]? with
  | none => rfl
  | some x =>
    by_cases hj : i = j
    · simp [hj, h]
    · simp [hj]

/-! ### The commands of each mount -/

/-- The act that hands an event on hands its command on. -/
theorem filterMap_command?_act (c? : Option Command) :
    (c?.map (RoomAct.command (σ := σ))).toList.filterMap RoomAct.command? = c?.toList := by
  cases c? with
  | none => rfl
  | some c => rfl

theorem commands_after_reload (bill : Bill σ) {e : Event} (hp : b.purposeOf e = .reload) :
    (bill.after b trigger (.event e)).commands = bill.commands ++ [[]] := by
  simp [after, hp, commands, RoomAct.command?]

/-- An event that does not mount the story anew gives at most a command to the current mount. -/
theorem commands_after_event (bill : Bill σ) {e : Event} (hp : b.purposeOf e ≠ .reload) :
    (bill.after b trigger (.event e)).commands =
      bill.earlier.map (·.filterMap RoomAct.command?) ++
        [bill.current.filterMap RoomAct.command? ++ (b.storyCommand? trigger e).toList] := by
  rw [KeyBindings.storyCommand?]
  cases h : b.purposeOf e with
  | reload => exact absurd h hp
  | story => simp [after, h, commands, filterMap_command?_act]
  | _ => simp [after, h, commands]

theorem commands_after_of_event?_eq_none (bill : Bill σ) {h : Happening σ} (hh : h.event? = none) :
    (bill.after b trigger h).commands = bill.commands := by
  cases h with
  | event e => cases hh
  | work engine => simp [after, commands, RoomAct.command?]
  | strayWork mount engine =>
    have hcommands (acts : List (RoomAct σ)) :
        (acts ++ [RoomAct.work engine, .abandon]).filterMap RoomAct.command? =
          id (acts.filterMap RoomAct.command?) := by
      simp [RoomAct.command?]
    rw [after, commands, commands, List.map_append, List.map_append, map_modify hcommands,
      List.modify_id]
  | _ => rfl

variable {b trigger}

/-- **One happening:** an event that mounts the story anew begins the events of another mount, and
any other event is of the current mount. -/
theorem commands_after {bill : Bill σ} {events : List Event}
    (hb : bill.commands = (events.splitOnP (reloads b)).map (translations b trigger))
    (h : Happening σ) :
    (bill.after b trigger h).commands =
      ((events ++ h.event?.toList).splitOnP (reloads b)).map (translations b trigger) := by
  cases hh : h.event? with
  | none =>
    rw [commands_after_of_event?_eq_none b trigger bill hh, hb, Option.toList_none, List.append_nil]
  | some e =>
    obtain rfl : h = .event e := by
      cases h with
      | event e' => exact congrArg Happening.event (Option.some.inj hh)
      | _ => cases hh
    rw [Option.toList_some]
    by_cases hp : b.purposeOf e = .reload
    · have hreloads : reloads b e = true := decide_eq_true hp
      rw [commands_after_reload b trigger bill hp, hb, List.splitOnP_append_cons _ _ hreloads,
        List.map_append]
      rfl
    · -- The event is the last of its part of the split events, and its command, if it has one, goes
      -- to the current mount. Both sides are taken apart at their ends.
      have hreloads : reloads b e = false := decide_eq_false hp
      obtain ⟨front, last, hsplit, hall⟩ := Text.exists_splitOnP_concat events hreloads
      rw [hsplit, commands, List.map_append, List.map_append] at hb
      obtain ⟨hearlier, hlasts⟩ := List.append_inj' hb rfl
      have hcurrent : bill.current.filterMap RoomAct.command? = translations b trigger last :=
        List.singleton_inj.mp hlasts
      have hlast : translations b trigger (last ++ [e]) =
          translations b trigger last ++ (b.storyCommand? trigger e).toList := by
        rw [translations, List.filterMap_append, List.filterMap_cons]
        cases b.storyCommand? trigger e with
        | none => rfl
        | some c => rfl
      rw [commands_after_event b trigger bill hp, hall, List.map_append, hearlier, hcurrent,
        List.map_singleton, hlast]

variable (b trigger)

/-- Each mount gets the translations of the events of its time. -/
theorem commands_of (happenings : List (Happening σ)) :
    (of b trigger happenings).commands =
      ((happenings.filterMap Happening.event?).splitOnP (reloads b)).map
        (translations b trigger) := by
  induction happenings using List.reverseRecOn with
  | nil => rfl
  | append_singleton happenings h ih =>
    have hone : [h].filterMap Happening.event? = h.event?.toList := by
      cases h with
      | _ => rfl
    rw [of_concat, List.filterMap_append, hone]
    exact commands_after ih h

/-- The last thing done with a room of an earlier mount is to give it up. -/
theorem getLast?_of_mem_earlier {happenings : List (Happening σ)} {acts : List (RoomAct σ)}
    (h : acts ∈ (of b trigger happenings).earlier) : acts.getLast? = some .abandon := by
  induction happenings using List.reverseRecOn generalizing acts with
  | nil => cases h
  | append_singleton happenings x ih =>
    rw [of_concat] at h
    cases x with
    | event e =>
      rw [after] at h
      cases hp : b.purposeOf e with
      | reload =>
        rw [hp] at h
        rcases List.mem_append.mp h with h | h
        · exact ih h
        · cases List.mem_singleton.mp h
          exact List.getLast?_concat
      | _ =>
        rw [hp] at h
        exact ih h
    | strayWork mount engine =>
      change acts ∈ (of b trigger happenings).earlier.modify mount _ at h
      obtain ⟨i, hi⟩ := List.mem_iff_getElem?.mp h
      rw [List.getElem?_modify, Option.map_eq_map, Option.map_eq_some_iff] at hi
      obtain ⟨before, hbefore, hacts⟩ := hi
      split at hacts
      · rw [← hacts, List.getLast?_append]
        rfl
      · exact ih (hacts ▸ List.mem_of_getElem? hbefore)
    | _ => exact ih h

/-- Under the bindings by default, the press of `F5` mounts the story anew. Its release does not
reach the story then, and that of another key does. -/
example :
    (of (σ := Unit) .default .release
      [.event (.key ⟨.function 5, .none, .press⟩), .event (.key ⟨.function 5, .none, .release⟩),
        .event (.key ⟨.char 'x', .none, .release⟩)]).commands = [[], [.key "x"]] := rfl

/-- There is an earlier mount for each time that the story has been mounted anew. -/
theorem length_earlier_of (happenings : List (Happening σ)) :
    (of b trigger happenings).earlier.length =
      (happenings.filterMap Happening.event?).countP (reloads b) := by
  induction happenings using List.reverseRecOn with
  | nil => rfl
  | append_singleton happenings h ih =>
    rw [of_concat, List.filterMap_append, List.countP_append, ← ih]
    generalize of b trigger happenings = bill
    cases h with
    | event e =>
      show (after b trigger bill (.event e)).earlier.length = _ + [e].countP (reloads b)
      rw [List.countP_singleton, reloads]
      cases hp : b.purposeOf e with
      | reload => simp [after, hp]
      | _ => simp [after, hp]
    | strayWork mount engine => exact List.length_modify _ _ _
    | _ => rfl

end Bill

end StoryPlayer
