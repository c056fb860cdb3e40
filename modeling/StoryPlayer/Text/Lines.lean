/-!
# Lines of a text

A line ends at a line feed, and a carriage return right before the line feed belongs to the ending.
What follows the last line feed is a line of its own unless it is empty.
-/

namespace StoryPlayer.Text

/-- A finished line without the carriage return that belongs to its ending. -/
def dropReturn (line : List Char) : List Char :=
  if line.getLast? = some '\r' then line.dropLast else line

theorem length_dropWhile_le (p : Char → Bool) (cs : List Char) :
    (cs.dropWhile p).length ≤ cs.length :=
  (List.dropWhile_suffix p).length_le

/-- The lines of a text, without their endings. -/
def lines (cs : List Char) : List (List Char) :=
  if cs.isEmpty then []
  else
    let line := cs.takeWhile (· ≠ '\n')
    match _h : cs.dropWhile (· ≠ '\n') with
    | [] => [line]
    | _ :: rest => dropReturn line :: lines rest
termination_by cs.length
decreasing_by
  have := length_dropWhile_le (· ≠ '\n') cs
  rw [_h, List.length_cons] at this
  exact this

end StoryPlayer.Text
