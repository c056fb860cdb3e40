import StoryPlayer.Proofs.Story.Scene
import StoryPlayer.Proofs.Story.Turns
import Mathlib.Data.List.Basic

/-!
# The gist of tokens

What tokens come to can be said without playing them: read once, from left to right, they leave a
label, the lines of a page, and a scene. The end of a page clears it only when something follows.
Playing tokens wait by wait shows, at each place where the story stops, the gist of all tokens
before that place.

* `Gist.ofTokens`: what some tokens come to.
* `stops`: the places where a story stops.
* `Story.turns_play`: the turns of a story, place by place.
* `Story.shows_gist`: any number of commands to go on.
-/

namespace StoryPlayer

open Script (Token Label)

/-! ## Reading tokens once -/

/-- What has been read: the label last passed, the lines on the page in reading order, the scene,
and whether the page is over, so that it is cleared before anything else is read. -/
structure Gist where
  label : Option Label
  text : List String
  scene : List String
  pageOver : Bool
  deriving DecidableEq

namespace Gist

/-- Nothing has been read. -/
def blank : Gist := ⟨none, [], [], false⟩

/-- A new page, if the one before is over. -/
def turnPage (g : Gist) : Gist := if g.pageOver then { g with text := [], pageOver := false } else g

/-- What a token says. -/
def note (g : Gist) : Token → Gist
  | .label l => { g with label := some l }
  | .text line => { g with text := g.text ++ [line] }
  | .tag t =>
    if t.name = "cm" ∨ t.name = "ct" then { g with text := [] }
    else if t.name = "bg" ∨ t.name = "image" then
      match (t.get? "storage").or (t.get? "file") with
      | some image => { g with scene := [image] }
      | none => g
    else if t.name = "pg" then { g with pageOver := true }
    else g

/-- Read one more token. -/
def read (g : Gist) (t : Token) : Gist := g.turnPage.note t

/-- What is visible. -/
def view (g : Gist) : View := ⟨g.text, g.scene⟩

/-- What some tokens come to. -/
def ofTokens (tokens : List Token) : Gist := tokens.foldl .read .blank

end Gist

/-- The end of a page clears it only if something follows. -/
example :
    Gist.ofTokens [.text "a", .tag (.named "pg")] = ⟨none, ["a"], [], true⟩ ∧
    Gist.ofTokens [.text "a", .tag (.named "pg"), .text "b"] = ⟨none, ["b"], [], false⟩ := by
  decide

/-- Whether a story stops behind a token. -/
def isStop : Token → Bool
  | .tag t => t.name = "lr" || t.name = "pg"
  | _ => false

/-- The places where a story stops: behind each `lr` and `pg`, and at its end. -/
def stops (tokens : List Token) : List Nat :=
  (List.range (tokens.length + 1)).filter fun n =>
    0 < n && (n = tokens.length || tokens[n - 1]?.any isStop)

/-- The number of the last stop, counted from 0. -/
def lastStop (tokens : List Token) : Nat := (stops tokens).length - 1

/-! ## Stops -/

theorem stops_nil : stops [] = [] := rfl

/-- Places behind the first token are places of the rest. -/
theorem filter_stop_cons (t : Token) (rest : List Token) :
    (List.range' 1 rest.length).filter
        (fun n => decide (n + 1 = (t :: rest).length) || (t :: rest)[n]?.any isStop) =
      stops rest := by
  rw [stops, List.range_eq_range', List.range'_succ, List.filter_cons_of_neg (by simp)]
  refine List.filter_congr fun n hn => ?_
  obtain ⟨m, rfl⟩ : ∃ m, n = m + 1 := by
    rw [List.mem_range'_1] at hn
    exact ⟨n - 1, by omega⟩
  simp

/-- A token is followed by a stop of its own, or by those of the rest only. -/
theorem stops_cons (t : Token) (rest : List Token) :
    stops (t :: rest) =
      (if isStop t || rest.isEmpty then [1] else []) ++ (stops rest).map (· + 1) := by
  have hplaces : stops (t :: rest) = ((List.range (rest.length + 1)).filter
      (fun n => decide (n + 1 = (t :: rest).length) || (t :: rest)[n]?.any isStop)).map (· + 1) := by
    rw [stops, List.length_cons, List.range_succ_eq_map, List.filter_cons_of_neg (by simp),
      List.filter_map]
    rfl
  have hfirst : (decide (0 + 1 = (t :: rest).length) || (t :: rest)[0]?.any isStop) =
      (isStop t || rest.isEmpty) := by
    cases rest with
    | nil => simp
    | cons u us => simp
  rw [hplaces, List.range_eq_range', List.range'_succ, List.filter_cons, hfirst, filter_stop_cons]
  split
  · rfl
  · rfl

/-! ## Reading and playing -/

/-- What can be seen of a stage, and whether its page is over. -/
def Stage.gist (s : Stage) (pageOver : Bool) : Gist := ⟨s.label, s.text, s.scene, pageOver⟩

/-- What can be seen of a story, and whether it waits at the end of a page. -/
def Story.gist (s : Story) : Gist := s.stage.gist (s.waiting = some .page)

theorem wait?_eq_none_iff {t : Token} : wait? t = none ↔ isStop t = false := by
  cases t with
  | tag t => by_cases hl : t.name = "lr" <;> by_cases hp : t.name = "pg" <;> simp [wait?, isStop, hl, hp]
  | label l => exact ⟨fun _ => rfl, fun _ => rfl⟩
  | text line => exact ⟨fun _ => rfl, fun _ => rfl⟩

variable {stage : Stage} {t : Token}

theorem Stage.scene_setBackground {s : Stage} (h : s.scene.length ≤ 1) (image : String) :
    s.setBackground image = { s with scene := [image] } := by
  match hs : s.scene, h with
  | [], _ => simp [setBackground, hs]
  | [other], _ => simp [setBackground, hs]

/-- Reading a token that stops nothing is applying it. -/
theorem read_gist_of_not_stop (h : stage.scene.length ≤ 1) (ht : isStop t = false) :
    (stage.gist false).read t = (stage.apply t).gist false := by
  cases t with
  | label l => rfl
  | text line =>
    change (stage.gist false).note (.text line) = _
    simp [Gist.note, Stage.apply, Stage.gist, Stage.text]
  | tag t =>
    have hpage : t.name ≠ "pg" := by
      intro hp
      simp [isStop, hp] at ht
    change (stage.gist false).note (.tag t) = _
    rw [Gist.note, Stage.apply, background?, Option.orElse_eq_orElse, Option.orElse_eq_or]
    by_cases hclear : t.name = "cm" ∨ t.name = "ct"
    · have himage : ¬ (t.name = "bg" ∨ t.name = "image") := by
        rcases hclear with hc | hc <;> rw [hc] <;> decide
      rw [if_pos hclear, if_neg himage, if_pos hclear]
      rfl
    · rw [if_neg hclear, if_neg hclear, if_neg hpage]
      split
      · cases (t.get? "storage").or (t.get? "file") with
        | none => rfl
        | some image =>
          change _ = (stage.setBackground image).gist false
          rw [Stage.scene_setBackground h]
          rfl
      · rfl

/-- Reading a token that stops the story tells where it waits. -/
theorem read_gist_of_wait {w : Wait} (ht : wait? t = some w) :
    (stage.gist false).read t = stage.gist (w = .page) := by
  cases t with
  | label l => cases ht
  | text line => cases ht
  | tag t =>
    change (stage.gist false).note (.tag t) = _
    rw [wait?] at ht
    split at ht
    · rename_i hl
      cases ht
      simp [Gist.note, hl]
    · split at ht
      · rename_i hp
        cases ht
        simp [Gist.note, hp, Stage.gist]
      · cases ht

/-- What is read after the end of a page is read from an empty page. -/
theorem read_gist_pageOver (stage : Stage) (pageOver : Bool) (t : Token) :
    (stage.gist pageOver).read t =
      ((if pageOver then stage.clearText else stage).gist false).read t := by
  cases pageOver with
  | false => rfl
  | true => rfl

/-! ## Playing tokens -/

theorem pos_of_mem_stops {tokens : List Token} {n : Nat} (h : n ∈ stops tokens) : 0 < n := by
  have hn := (List.mem_filter.mp h).2
  rw [Bool.and_eq_true, decide_eq_true_eq] at hn
  exact hn.1

/-- For each place where some tokens stop a story, the tokens behind it and the gist, from `g` on, of
those before it. -/
def marks (g : Gist) (tokens : List Token) : List (List Token × Gist) :=
  (stops tokens).map fun n => (tokens.drop n, (tokens.take n).foldl Gist.read g)

theorem marks_cons (g : Gist) (t : Token) (rest : List Token) :
    marks g (t :: rest) =
      (if isStop t || rest.isEmpty then [(rest, g.read t)] else []) ++ marks (g.read t) rest := by
  rw [marks, stops_cons, List.map_append, List.map_map]
  split
  · rfl
  · rfl

theorem marks_pageOver (stage : Stage) (pageOver : Bool) (tokens : List Token) :
    marks (stage.gist pageOver) tokens =
      marks ((if pageOver then stage.clearText else stage).gist false) tokens := by
  refine List.map_congr_left fun n hn => ?_
  cases tokens with
  | nil => cases hn
  | cons t rest =>
    obtain ⟨m, rfl⟩ := Nat.exists_eq_add_one.mpr (pos_of_mem_stops hn)
    rw [List.take_succ_cons, List.foldl_cons, List.foldl_cons, read_gist_pageOver]

/-- **The turns of a story are its marks:** what is left to play at each turn are the tokens behind a
stop, and what is visible is the gist of those before it. -/
theorem Story.turns_play (h : stage.scene.length ≤ 1) {tokens : List Token} (hne : tokens ≠ []) :
    (play stage tokens).turns.map (fun s => (s.rest, s.gist)) = marks (stage.gist false) tokens := by
  induction tokens generalizing stage with
  | nil => exact absurd rfl hne
  | cons t rest ih =>
    rw [marks_cons]
    cases hw : wait? t with
    | some w =>
      -- The story stops here. What follows goes on from a stage whose page has been cleared, if `t`
      -- ends one.
      have hplay : play stage (t :: rest) = ⟨rest, stage, some w⟩ := by rw [play, hw]
      have hstop : isStop t = true := by
        rw [← Bool.not_eq_false, ← wait?_eq_none_iff, hw]
        exact Option.some_ne_none w
      rw [hplay, read_gist_of_wait hw, marks_pageOver, hstop]
      cases rest with
      | nil =>
        rw [turns_of_eq_none rfl, marks, stops_nil]
        simp [Story.gist]
      | cons u us =>
        let next := if w = .page then stage.clearText else stage
        have hnext : next.scene.length ≤ 1 := by
          cases w with
          | line => exact h
          | page => exact h
        have hadvance : (⟨u :: us, stage, some w⟩ : Story).advance? = some (play next (u :: us)) := by
          cases w with
          | line => rfl
          | page => rfl
        rw [turns_of_eq_some hadvance, List.map_cons, ih hnext (List.cons_ne_nil u us)]
        simp [Story.gist, next]
    | none =>
      have hplay : play stage (t :: rest) = play (stage.apply t) rest := by rw [play, hw]
      have hstop := wait?_eq_none_iff.mp hw
      rw [hplay, read_gist_of_not_stop h hstop, hstop]
      cases rest with
      | nil =>
        rw [play, turns_of_eq_none rfl, marks, stops_nil]
        rfl
      | cons u us =>
        exact ih (Stage.length_scene_apply_le h t) (List.cons_ne_nil u us)

/-! ## Any number of commands -/

/-- What shows of some tokens after the story has been told `k` times to go on. -/
structure ShowsGist (tokens : List Token) (k : Nat) : Prop where
  /-- The gist of the tokens before the stop of that number, or before the last one. -/
  shown : ∃ n, (stops tokens)[min k (lastStop tokens)]? = some n ∧
    ((Story.ofTokens tokens).run.later k).view = (Gist.ofTokens (tokens.take n)).view ∧
    ((Story.ofTokens tokens).run.later k).stage.label = (Gist.ofTokens (tokens.take n)).label
  /-- The story is over from the last stop on. -/
  finished : ((Story.ofTokens tokens).run.later k).isFinished = true ↔ lastStop tokens ≤ k
  /-- The command to go on that comes next finds something to play if there is a stop to come. -/
  wentOn : ((Story.ofTokens tokens).run.later k).advance.1 = true ↔ k + 1 ≤ lastStop tokens
  /-- If it does not, it changes nothing. -/
  stayed : ((Story.ofTokens tokens).run.later k).advance.1 = false →
    (Story.ofTokens tokens).run.later (k + 1) = (Story.ofTokens tokens).run.later k

theorem Story.marks_eq {tokens : List Token} (hne : tokens ≠ []) :
    (Story.ofTokens tokens).run.turns.map (fun s => (s.rest, s.gist)) = marks .blank tokens := by
  have hscene : Stage.empty.scene.length ≤ 1 := Nat.zero_le 1
  exact turns_play hscene hne

theorem Story.lastTurn_eq {tokens : List Token} (hne : tokens ≠ []) :
    (Story.ofTokens tokens).run.lastTurn = lastStop tokens := by
  have hlength := congrArg List.length (marks_eq hne)
  rw [marks, List.length_map, List.length_map] at hlength
  rw [lastTurn, lastStop, hlength]

/-- **Playing wait by wait is reading once.** After any number of commands to go on, a story shows
the gist of the tokens before the stop that it has come to, it is over once it has come to the last
one, and from then on commands change nothing. -/
theorem Story.shows_gist {tokens : List Token} (hne : tokens ≠ []) (k : Nat) :
    ShowsGist tokens k where
  shown := by
    have hturn := getElem?_turns (Story.ofTokens tokens).run k
    have hmark := congrArg (·[min k (lastStop tokens)]?) (marks_eq hne)
    rw [lastTurn_eq hne] at hturn
    simp only [marks, List.getElem?_map, hturn, Option.map_some] at hmark
    obtain ⟨n, hn, hgist⟩ := Option.map_eq_some_iff.mp hmark.symm
    have hshown : Gist.ofTokens (tokens.take n) = ((Story.ofTokens tokens).run.later k).gist :=
      congrArg Prod.snd hgist
    refine ⟨n, hn, ?_, ?_⟩
    · rw [hshown]
      rfl
    · rw [hshown]
      rfl
  finished := by
    rw [isFinished_later_iff, lastTurn_eq hne]
  wentOn := by
    rw [advance_later_fst_iff, lastTurn_eq hne]
    rfl
  stayed := advance_snd_of_fst_eq_false

/-- A page that is over is cleared when the story goes on from it. -/
theorem Story.shows_gist_of_two_pages :
    ([.text "a", .tag (.named "pg"), .text "b"] : List Token) ≠ [] ∧
    stops [.text "a", .tag (.named "pg"), .text "b"] = [2, 3] ∧
    ShowsGist [.text "a", .tag (.named "pg"), .text "b"] 1 :=
  ⟨by decide, by decide, shows_gist (by decide) 1⟩

end StoryPlayer
