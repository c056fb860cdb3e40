import StoryPlayer.Story

/-!
# The scene has one image at most

Tags put their image in the place of the background, so a scene that has at most one image keeps at
most one, token after token, and the first image is all of it.

* `Stage.length_scene_apply_le`: one token.
* `Story.length_scene_run_le`, `Story.length_scene_advance_le`: up to the next wait.
* `View.scene_eq_of_length_le`: what reading only the first image amounts to.
-/

namespace StoryPlayer

open Script (Token)

namespace Stage

theorem length_scene_setBackground_le {s : Stage} (h : s.scene.length ≤ 1) (image : String) :
    (s.setBackground image).scene.length ≤ 1 := by
  cases hs : s.scene with
  | nil => simp [setBackground, hs]
  | cons first others =>
    rw [hs] at h
    simpa [setBackground, hs] using h

theorem length_scene_apply_le {s : Stage} (h : s.scene.length ≤ 1) (t : Token) :
    (s.apply t).scene.length ≤ 1 := by
  cases t with
  | label l => exact h
  | text x => exact h
  | tag t =>
    simp only [apply]
    split
    · cases background? t with
      | none => exact h
      | some image => exact length_scene_setBackground_le h image
    · split
      · exact h
      · exact h

end Stage

namespace Story

theorem length_scene_play_le {stage : Stage} (h : stage.scene.length ≤ 1) (tokens : List Token) :
    (play stage tokens).stage.scene.length ≤ 1 := by
  induction tokens generalizing stage with
  | nil => exact h
  | cons t rest ih =>
    rw [play]
    cases wait? t with
    | some w => exact h
    | none => exact ih (Stage.length_scene_apply_le h t)

theorem length_scene_run_le {s : Story} (h : s.stage.scene.length ≤ 1) :
    s.run.stage.scene.length ≤ 1 :=
  length_scene_play_le h s.rest

theorem length_scene_advance_le {s s' : Story} (h : s.stage.scene.length ≤ 1)
    (ha : s.advance? = some s') : s'.stage.scene.length ≤ 1 := by
  rw [advance?] at ha
  split at ha
  · cases ha
  · cases ha
    refine length_scene_play_le ?_ s.rest
    split
    · exact h
    · exact h

end Story

theorem View.scene_eq_of_length_le {v : View} (h : v.scene.length ≤ 1) :
    v.scene[0]?.toList = v.scene := by
  match hs : v.scene, h with
  | [], _ => rfl
  | [image], _ => rfl

end StoryPlayer
