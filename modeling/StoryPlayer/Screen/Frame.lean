import StoryPlayer.Screen.Layout
import StoryPlayer.Screen.Menu

/-!
# Frames

A frame is everything that is drawn at one time: the menu on the first row, the scene on the second,
the dialogue from the fourth row on, and the status on the last row.
-/

namespace StoryPlayer.Screen

/-- The size of a terminal. -/
structure Size where
  width : UInt16
  height : UInt16
  deriving DecidableEq, Repr

/-- The rows above the dialogue: the menu, the scene and an empty one. -/
def textOffset : UInt16 := 3

/-- How many rows there are for the dialogue: those between the scene and the status. -/
def textRows (size : Size) : Nat := size.height.toNat - (textOffset.toNat + 1)

/-- The row of the status. -/
def statusRow (size : Size) : UInt16 := if size.height = 0 then 0 else size.height - 1

/-- What the row of the scene says. -/
def sceneLine (v : View) : String :=
  match v.background? with
  | some background => "▣ " ++ background
  | none => "▣ (no scene)"

/-- The menu, its items two spaces apart. -/
def menuBar (b : KeyBindings) : List Ansi :=
  [.moveTo 0 0, .print " "] ++ [Ansi.print "  "].intercalate ((menuItems b).map menuItem)

/-- The rows of the dialogue, each where it is drawn. -/
def dialogue (v : View) (size : Size) : List Ansi :=
  (layout v size.width.toNat (textRows size)).zipIdx.flatMap fun (row, y) =>
    [.moveTo 0 (y.toUInt16 + textOffset), .print row]

/-- A whole frame. -/
def frame (v : View) (b : KeyBindings) (status : String) (size : Size) : List Ansi :=
  [.clear] ++ menuBar b ++ [.moveTo 0 1, .styled .bold (sceneLine v)] ++ dialogue v size ++
    [.moveTo 0 (statusRow size), .styled .dim (" " ++ status ++ " ")]

end StoryPlayer.Screen
