import StoryPlayer.Dispatcher
import StoryPlayer.Screen.Frame

/-!
# The terminal

The terminal as the player meets it: a sequence of operations, any of which may fail. The terminal
keeps an account of them, from which everything that was written can be read off.
-/

namespace StoryPlayer

open Screen (Ansi Size)

/-- What a frame shows. -/
structure Picture where
  view : View
  bindings : KeyBindings
  status : String
  size : Size
  deriving DecidableEq, Repr

/-- The commands that draw a picture. -/
def Picture.commands (p : Picture) : List Ansi := Screen.frame p.view p.bindings p.status p.size

/-- An operation on a terminal. -/
inductive TerminalAction where
  | enableRawMode
  | disableRawMode
  | write (commands : List Ansi)
  | draw (picture : Picture)
  | readSize
  | readEvent
  deriving DecidableEq, Repr

/-- What an operation writes. -/
def TerminalAction.commands : TerminalAction → List Ansi
  | .write commands => commands
  | .draw picture => picture.commands
  | _ => []

/-- Whether an operation draws a picture. -/
def TerminalAction.isDrawing : TerminalAction → Bool
  | .draw _ => true
  | _ => false

structure Terminal where
  size : Size
  /-- Whether it is able to report key releases. -/
  reportsReleases : Bool
  /-- Why the operation of each number fails, if it does. -/
  failure : Nat → Option SurfaceError
  /-- The operations so far, and whether they succeeded. -/
  account : List (TerminalAction × Bool)

namespace Terminal

/-- A terminal whose operations all succeed. -/
def reliable (size : Size) (reportsReleases : Bool) : Terminal :=
  ⟨size, reportsReleases, fun _ => none, []⟩

/-- Carry out an operation. -/
def perform (t : Terminal) (a : TerminalAction) : Except SurfaceError Unit × Terminal :=
  match t.failure t.account.length with
  | none => (.ok (), { t with account := t.account ++ [(a, true)] })
  | some e => (.error e, { t with account := t.account ++ [(a, false)] })

/-- The operations that succeeded. -/
def done (t : Terminal) : List TerminalAction :=
  (t.account.filter fun entry => entry.2).map Prod.fst

/-- The pictures that have been drawn, in order. -/
def pictures (t : Terminal) : List Picture :=
  t.done.filterMap fun a =>
    match a with
    | .draw p => some p
    | _ => none

/-- Everything that has been written. -/
def text (t : Terminal) : String := Ansi.render (t.done.flatMap TerminalAction.commands)

/-- What has been written since the last picture. -/
def textAfterPictures (t : Terminal) : String :=
  Ansi.render ((t.done.reverse.takeWhile fun a => !a.isDrawing).reverse.flatMap
    TerminalAction.commands)

end Terminal

/-! ## Its input -/

/-- The input of a terminal, and whether it has been asked to report key releases. -/
structure TerminalInput where
  terminal : Terminal
  enhanced : Bool

namespace TerminalInput

/-- Switch on the reports of the pointer, and those of key releases if the terminal has them. -/
def attach (i : TerminalInput) : Except SurfaceError Device.Trigger × TerminalInput :=
  match i.terminal.perform (.write [.enableMouse]) with
  | (.error e, terminal) => (.error e, { i with terminal })
  | (.ok (), terminal) =>
    let (asked, terminal) := terminal.perform (.write [.askKeyboard, .askDevice])
    let enhanced := asked.toBool && terminal.reportsReleases
    if enhanced then
      match terminal.perform (.write [.pushKeyboard]) with
      | (.error e, terminal) => (.error e, ⟨terminal, true⟩)
      | (.ok (), terminal) => (.ok .release, ⟨terminal, true⟩)
    else (.ok .press, ⟨terminal, false⟩)

/-- Switch off what attaching switched on. -/
def detach (i : TerminalInput) : Except SurfaceError Unit × TerminalInput :=
  let (popped, terminal) :=
    if i.enhanced then i.terminal.perform (.write [.popKeyboard]) else (.ok (), i.terminal)
  match popped with
  | .error e => (.error e, ⟨terminal, false⟩)
  | .ok () =>
    let (result, terminal) := terminal.perform (.write [.disableMouse])
    (result, ⟨terminal, false⟩)

instance : Surface TerminalInput := ⟨attach, detach⟩

end TerminalInput

end StoryPlayer
