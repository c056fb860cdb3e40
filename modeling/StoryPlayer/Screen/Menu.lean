import StoryPlayer.Config
import StoryPlayer.Screen.Ansi

/-!
# The menu

One line that names the keys and what they do. What stands in brackets is bold, everything else dim.
-/

namespace StoryPlayer.Screen

/-- The items of the menu. -/
def menuItems (b : KeyBindings) : List String :=
  ["[Enter][Space][Click] advance", "[" ++ b.reload ++ "] reload", "[" ++ b.quit ++ "] quit"]

/-- A text of one weight, or nothing if it is empty. -/
def segment (weight : Weight) (cs : List Char) : List Ansi :=
  if cs.isEmpty then [] else [.styled weight (String.ofList cs)]

/-- The segments of an item: each bracket that is closed is bold up to its end. -/
def menuSegments (item : List Char) : List Ansi :=
  match _h : item.dropWhile (· ≠ '[') with
  | [] => segment .dim item
  | c :: rest =>
    match _h' : rest.dropWhile (· ≠ ']') with
    | [] => segment .dim (item.takeWhile (· ≠ '[')) ++ segment .dim (c :: rest)
    | d :: after =>
      segment .dim (item.takeWhile (· ≠ '[')) ++
        segment .bold (c :: rest.takeWhile (· ≠ ']') ++ [d]) ++ menuSegments after
termination_by item.length
decreasing_by
  have h₁ := (List.dropWhile_suffix (· ≠ '[') (l := item)).length_le
  have h₂ := (List.dropWhile_suffix (· ≠ ']') (l := rest)).length_le
  rw [_h, List.length_cons] at h₁
  rw [_h', List.length_cons] at h₂
  omega

/-- An item as it is printed. -/
def menuItem (item : String) : List Ansi := menuSegments item.toList

end StoryPlayer.Screen
