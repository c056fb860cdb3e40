import StoryPlayer.Command

/-!
# Device events

What a terminal reports, and which reports are commands: a key of the kind that the terminal is able
to tell apart, and a press of the pointer. A key is known by the name that web pages know it by.
-/

namespace StoryPlayer.Device

inductive KeyCode where
  | char (c : Char)
  /-- A function key. -/
  | function (n : UInt8)
  | enter
  | escape
  | backspace
  | tab
  | backTab
  | left
  | right
  | up
  | down
  | home
  | «end»
  | pageUp
  | pageDown
  | delete
  | insert
  | null
  | capsLock
  | scrollLock
  | numLock
  | printScreen
  | pause
  | menu
  | keypadBegin
  /-- A key that controls the playing of media. -/
  | media
  /-- A modifier pressed by itself. -/
  | modifier
  deriving DecidableEq, Repr

/-- The name of a key. -/
def KeyCode.name : KeyCode → String
  | .char c => String.singleton c
  | .function n => s!"F{n.toNat}"
  | .enter => "Enter"
  | .escape => "Escape"
  | .backspace => "Backspace"
  | .tab | .backTab => "Tab"
  | .left => "ArrowLeft"
  | .right => "ArrowRight"
  | .up => "ArrowUp"
  | .down => "ArrowDown"
  | .home => "Home"
  | .end => "End"
  | .pageUp => "PageUp"
  | .pageDown => "PageDown"
  | .delete => "Delete"
  | .insert => "Insert"
  | .capsLock => "CapsLock"
  | .scrollLock => "ScrollLock"
  | .numLock => "NumLock"
  | .printScreen => "PrintScreen"
  | .pause => "Pause"
  | .menu => "ContextMenu"
  | .null | .keypadBegin | .media | .modifier => "Unidentified"

inductive KeyKind where
  | press
  | repeated
  | release
  deriving DecidableEq, Repr

/-- The modifiers that are held with a key. -/
structure Modifiers where
  shift : Bool
  control : Bool
  alt : Bool
  super : Bool
  hyper : Bool
  «meta» : Bool
  deriving DecidableEq, Repr

def Modifiers.none : Modifiers := ⟨false, false, false, false, false, false⟩

structure KeyEvent where
  code : KeyCode
  modifiers : Modifiers
  kind : KeyKind
  deriving DecidableEq, Repr

inductive Button where
  | left
  | right
  | middle
  deriving DecidableEq, Repr

inductive MouseKind where
  | down (b : Button)
  | up (b : Button)
  | drag (b : Button)
  | moved
  | scrollDown
  | scrollUp
  | scrollLeft
  | scrollRight
  deriving DecidableEq, Repr

inductive Event where
  | key (k : KeyEvent)
  | mouse (kind : MouseKind) (column row : UInt16)
  | resize (width height : UInt16)
  | paste (text : String)
  | focusGained
  | focusLost
  deriving DecidableEq, Repr

/-- The kind of key event that gives a command. -/
inductive Trigger where
  | release
  /-- For terminals that never report releases. -/
  | press
  deriving DecidableEq, Repr

def Trigger.kind : Trigger → KeyKind
  | .release => .release
  | .press => .press

/-- Whether the pointer is being pressed. -/
def MouseKind.isDown : MouseKind → Bool
  | .down _ => true
  | _ => false

/-- The command that an event carries. -/
def Event.command? (trigger : Trigger) : Event → Option Command
  | .key k => if k.kind = trigger.kind then some (.key k.code.name) else none
  | .mouse kind _ _ => if kind.isDown then some .pointer else none
  | _ => none

end StoryPlayer.Device
