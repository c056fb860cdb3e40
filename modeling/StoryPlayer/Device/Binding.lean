import StoryPlayer.Device.Event

/-!
# Key bindings

A binding is written as the name of a key, such as `Esc`, `F5` or `q`, or as `Ctrl-` and one
character. A key that is bound without `Ctrl-` does not answer while control or alt is held.
-/

namespace StoryPlayer.Device

/-- A key, and whether it is to be held with control. -/
structure Chord where
  control : Bool
  code : KeyCode
  deriving DecidableEq, Repr

/-- The one character of a text. -/
def single? : List Char → Option Char
  | [c] => some c
  | _ => none

/-- The value of decimal digits. -/
def decimal (digits : List Char) : Nat :=
  digits.foldl (fun n c => n * 10 + (c.toNat - '0'.toNat)) 0

/-- The number up to 255 that a text writes in decimal digits, perhaps after a plus sign. -/
def byte? (cs : List Char) : Option UInt8 :=
  let digits := if cs.head? = some '+' then cs.tail else cs
  if !digits.isEmpty && digits.all Char.isDigit && decimal digits < 256 then
    some (UInt8.ofNat (decimal digits))
  else none

/-- The key that is written without `Ctrl-`. -/
def plainKey? (binding : String) : Option KeyCode :=
  if binding = "Enter" then some .enter
  else if binding = "Esc" then some .escape
  else if binding = "Space" then some (.char ' ')
  else if binding = "Tab" then some .tab
  else if binding = "Backspace" then some .backspace
  else
    match binding.toList with
    | 'F' :: rest => (KeyCode.function <$> byte? rest) <|> (KeyCode.char <$> single? ('F' :: rest))
    | cs => KeyCode.char <$> single? cs

/-- What a binding asks for; one that is written in no known way asks for nothing. -/
def Chord.ofBinding? (binding : String) : Option Chord :=
  match binding.toList with
  | 'C' :: 't' :: 'r' :: 'l' :: '-' :: rest => (single? rest).map fun c => ⟨true, .char c⟩
  | _ => (plainKey? binding).map fun code => ⟨false, code⟩

/-- Whether a key event plays a chord. -/
def Chord.isPlayedBy (chord : Chord) (k : KeyEvent) : Bool :=
  (if chord.control then k.modifiers.control else !k.modifiers.control && !k.modifiers.alt) &&
    k.code = chord.code

/-- Whether a key event answers to a binding. -/
def answersTo (k : KeyEvent) (binding : String) : Bool :=
  match Chord.ofBinding? binding with
  | some chord => chord.isPlayedBy k
  | none => false

end StoryPlayer.Device
