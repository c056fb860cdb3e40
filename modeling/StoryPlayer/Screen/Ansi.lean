/-!
# Terminal output

What the player writes to a terminal, as a list of commands, and the control sequences that spell
them.
-/

namespace StoryPlayer.Screen

inductive Weight where
  | bold
  | dim
  deriving DecidableEq, Repr

/-- A command to a terminal. Columns and rows count from 0. -/
inductive Ansi where
  | clear
  | moveTo (column row : UInt16)
  | print (text : String)
  /-- A text of one weight; after it the terminal is back at its usual weight. -/
  | styled (weight : Weight) (text : String)
  | enterAlternateScreen
  | leaveAlternateScreen
  | hideCursor
  | showCursor
  | enableMouse
  | disableMouse
  /-- Ask whether key releases can be reported. -/
  | askKeyboard
  /-- Ask what kind of terminal it is; every terminal answers this, whatever it knows of keyboards. -/
  | askDevice
  | pushKeyboard
  | popKeyboard
  deriving DecidableEq, Repr

/-- The escape character and the bracket that begin a control sequence. -/
def control : String := "\x1b["

def Weight.code : Weight → String
  | .bold => "1m"
  | .dim => "2m"

/-- Switch private modes of the terminal on or off. -/
def modes (ns : List String) (final : String) : String :=
  String.join (ns.map fun n => control ++ "?" ++ n ++ final)

/-- The modes that report the pointer, in the order in which they are switched on. -/
def mouseModes : List String := ["1000", "1002", "1003", "1015", "1006"]

/-- The characters of a command. -/
def Ansi.text : Ansi → String
  | .clear => control ++ "2J"
  | .moveTo column row => control ++ toString (row.toNat + 1) ++ ";" ++ toString (column.toNat + 1) ++ "H"
  | .print text => text
  | .styled weight text => control ++ weight.code ++ text ++ control ++ "0m"
  | .enterAlternateScreen => modes ["1049"] "h"
  | .leaveAlternateScreen => modes ["1049"] "l"
  | .hideCursor => modes ["25"] "l"
  | .showCursor => modes ["25"] "h"
  | .enableMouse => modes mouseModes "h"
  | .disableMouse => modes mouseModes.reverse "l"
  | .askKeyboard => control ++ "?u"
  | .askDevice => control ++ "c"
  | .pushKeyboard => control ++ ">2u"
  | .popKeyboard => control ++ "<1u"

/-- The characters of some commands. -/
def Ansi.render (commands : List Ansi) : String := String.join (commands.map Ansi.text)

end StoryPlayer.Screen
