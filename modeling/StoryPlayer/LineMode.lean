import StoryPlayer.Controller

/-!
# Line mode

The player without a screen: it reads one command per line and prints what is visible whenever
something has been published.
-/

namespace StoryPlayer.LineMode

def greeting : String := "Welcome to ks-player!\n"

def help : String :=
  "Type a key name (Enter, ArrowRight, ...) or press return to advance. q quits.\n"

/-- A view as it is printed: the scene on one line, then the lines of dialogue. -/
def block (v : View) : String :=
  "[scene] " ++ ", ".intercalate v.scene ++ "\n" ++
    String.join (v.text.map fun line => "  " ++ line ++ "\n")

/-- A player in line mode: what it has printed so far, and what its reader has seen. -/
structure Desk (σ : Type) where
  controller : Controller σ
  reader : Reader
  printed : String

namespace Desk

variable {σ : Type} [Session σ]

/-- Print more. -/
def print (d : Desk σ) (text : String) : Desk σ := { d with printed := d.printed ++ text }

/-- Print the view if the reader has not seen it. -/
def printNews (d : Desk σ) : Desk σ :=
  if d.reader.hasNews d.controller.board then
    { d with reader := .subscribe d.controller.board }.print (block d.controller.board.current)
  else d

/-- Greet the reader, load the story and print what there is to see. -/
def start (engine : Engine σ) (resource : String) : Desk σ :=
  let c : Controller σ := .fresh
  let d : Desk σ := ⟨c, .subscribe c.board, greeting ++ help ++ block c.board.current⟩
  let (c, result) := d.controller.load engine resource
  let d := { d with controller := c }
  let d :=
    match result with
    | .error e => d.print s!"! {e.chain}\n"
    | .ok _ => d
  d.printNews

/-- Hand over a command and print what is new. -/
def handle (d : Desk σ) (c : Command) : Desk σ :=
  { d with controller := (d.controller.handle c).1 }.printNews

end Desk

/-! ## Input lines -/

/-- A line without the carriage return at its end. -/
def dropReturn (line : Bytes) : Bytes :=
  if line.getLast? = some 0x0D then line.dropLast else line

/-- The lines of some bytes. A line ends with a line feed, and one carriage return before it belongs
to the ending. What follows the last line feed is a line as it stands, unless it is empty. -/
def byteLines (bytes : Bytes) : List Bytes :=
  let lines := bytes.splitOn 0x0A
  lines.dropLast.map dropReturn ++ (lines.getLast?.filter (· ≠ [])).toList

/-- What a line asks for. -/
inductive Order where
  | quit
  | command (c : Command)

/-- The order on a line: more carriage returns at its end do not count, and an empty line is
`Enter`. -/
def Order.ofLine (line : List Char) : Order :=
  let key := String.ofList (line.reverse.dropWhile (· = '\r')).reverse
  if key = "q" then .quit
  else if key = "" then .command (.key "Enter")
  else .command (.key key)

/-- Follow the orders on some lines, up to one that says to quit or is no text. -/
def follow {σ : Type} [Session σ] (d : Desk σ) : List Bytes → Desk σ × Except Utf8.Fault Unit
  | [] => (d, .ok ())
  | line :: rest =>
    match Utf8.decode line with
    | .error fault => (d, .error fault)
    | .ok text =>
      match Order.ofLine text with
      | .quit => (d, .ok ())
      | .command c => follow (d.handle c) rest

/-- Play a story in line mode. -/
def run {σ : Type} [Session σ] (engine : Engine σ) (resource : String) (input : Bytes) :
    Desk σ × Except Utf8.Fault Unit :=
  follow (Desk.start engine resource) (byteLines input)

end StoryPlayer.LineMode
