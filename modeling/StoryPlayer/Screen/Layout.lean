import StoryPlayer.Text.Blank
import StoryPlayer.View

/-!
# Layout of dialogue

Each line of dialogue is a paragraph, wrapped to the width of the screen. Paragraphs are separated by
an empty row. When not everything fits, the newest rows are kept.
-/

namespace StoryPlayer.Screen

/-- What stands before the last space of a text; nothing if it has no space. -/
def beforeLastSpace (cs : List Char) : List Char :=
  ((cs.reverse.dropWhile (· ≠ ' ')).drop 1).reverse

/-- The first row of a text that is wider than `w`: it ends before the last space among the first `w`
characters, or after all of them if that would leave it empty. -/
def firstRow (w : Nat) (cs : List Char) : List Char :=
  let row := beforeLastSpace (cs.take w)
  if row.isEmpty then cs.take w else row

theorem firstRow_ne_nil {w : Nat} (hw : 0 < w) {cs : List Char} (h : w < cs.length) :
    firstRow w cs ≠ [] := by
  simp only [firstRow]
  split
  · intro h'
    rcases List.take_eq_nil_iff.1 h' with h₀ | h₀
    · omega
    · simp [h₀] at h
  · next hne => simpa using hne

/-- The rows of a text at a width. Spaces at the start of a further row are dropped. -/
def rowsOf (w : Nat) (hw : 0 < w) (cs : List Char) : List (List Char) :=
  if _h : cs.drop w = [] then (if cs.isEmpty then [] else [cs])
  else
    let row := firstRow w cs
    row :: rowsOf w hw ((cs.drop row.length).dropWhile (· = ' '))
termination_by cs.length
decreasing_by
  have h₁ := (List.dropWhile_suffix (· = ' ') (l := cs.drop (firstRow w cs).length)).length_le
  have hlt : w < cs.length := Nat.lt_of_not_le fun h => _h (List.drop_eq_nil_iff.2 h)
  have h₂ := List.length_pos_iff.2 (firstRow_ne_nil hw hlt)
  rw [List.length_drop] at h₁
  omega

/-- The rows of a paragraph at a width; an empty paragraph takes one empty row. -/
def wrap (w : Nat) (hw : 0 < w) (line : String) : List String :=
  let cs := Text.trimEnd line.toList
  if cs.isEmpty then [""] else (rowsOf w hw cs).map String.ofList

/-- All rows of some paragraphs. -/
def allRows (w : Nat) (hw : 0 < w) : List String → List String
  | [] => []
  | [line] => wrap w hw line
  | line :: rest => wrap w hw line ++ "" :: allRows w hw rest

/-- The last rows of a view's dialogue at a width, at most `rows` of them. A screen without columns is
laid out as if it had one. -/
def layout (v : View) (width rows : Nat) : List String :=
  let all := allRows (max width 1) (by omega) v.text
  all.drop (all.length - rows)

end StoryPlayer.Screen
