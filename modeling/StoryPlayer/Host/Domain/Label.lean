import StoryPlayer.Host.Domain.Spelling
import StoryPlayer.Text.Direction
import StoryPlayer.Text.Joining
import StoryPlayer.Text.Punycode

/-!
# Labels of names

What stands between the full stops of a name, in small letters. A label with characters beyond ASCII
is looked up by its punycode, which `xn--` announces, and it may be written in punycode from the start.
-/

namespace StoryPlayer.Host.Domain

open StoryPlayer.Text (direction isMark isTransparent isVirama joinsAfter joinsBefore)

/-- A label: what it means, and the ASCII form that it is looked up by. -/
structure Label where
  text : List Char
  ascii : List Char
  deriving DecidableEq, Repr

/-! ## Joiners -/

/-- Whether the first of some characters that is not transparent has a property. -/
def firstJoins (joins : Char → Bool) (cs : List Char) : Bool :=
  (cs.find? fun c => joins c || !isTransparent c).any joins

/-- Whether an invisible joiner has a sense after some characters, latest first, and before others: it
follows a sign that takes a vowel away, or it parts two letters that would join. -/
def isJoinerInPlace (joiner : Char) (before after : List Char) : Bool :=
  before.head?.any isVirama ||
    (joiner = '\u200c' && firstJoins joinsAfter before && firstJoins joinsBefore after)

/-- Whether all invisible joiners of a text have a sense, after some characters, latest first. -/
def areJoinersInPlace (before : List Char) : List Char → Bool
  | [] => true
  | c :: cs =>
    (!(c = '\u200c' || c = '\u200d') || isJoinerInPlace c before cs) &&
      areJoinersInPlace (c :: before) cs

/-! ## Directions -/

/-- Whether a name with a label of this text counts as one with letters from the right. -/
def hasRight (text : List Char) : Bool :=
  text.any fun c => direction c = .right || direction c = .arabicNumber

/-- Whether a text reads the same way wherever it stands: it begins with a letter, its end leaves no
doubt about its direction, and what is between goes along with it. -/
def isSteady (text : List Char) : Bool :=
  let directions := text.map direction
  let ending := directions.tail.reverse.dropWhile (· = .mark)
  match directions.head?, ending.head? with
  | none, _ => true
  | some .left, last =>
    last.all ([.left, .number].contains ·) &&
      ending.tail.all ([.left, .number, .neutral, .mark].contains ·)
  | some .right, last =>
    last.all ([.right, .number, .arabicNumber].contains ·) &&
      ending.tail.all ([.right, .number, .arabicNumber, .neutral, .mark].contains ·) &&
      !(ending.contains .number && ending.contains .arabicNumber)
  | some _, _ => false

/-! ## Reading -/

/-- Whether a text may be that of a label with characters beyond ASCII: it does not begin with a mark,
its joiners have a sense, and it is not too long. -/
def isLabelText (text : List Char) : Bool :=
  !text.head?.any isMark && areJoinersInPlace [] text && text.length ≤ 1000

/-- The beginning of a label that is written in punycode. -/
def announcement : List Char := "xn--".toList

/-- The label that a text in small letters spells. Punycode that ends in a hyphen stands for nothing
beyond ASCII and is no label, and neither is one of more than 2000 letters. -/
def Label.read? (cs : List Char) : Option Label :=
  if announcement.isPrefixOf cs then
    let code := cs.drop announcement.length
    if code = [] ∨ code.getLast? = some '-' ∨ 2000 < code.length then none
    else
      match Punycode.decode? code with
      | some text => if spelling? text = some text ∧ isLabelText text then some ⟨text, cs⟩ else none
      | none => none
  else if cs.all (·.toNat < 0x80) then some ⟨cs, cs⟩
  else if isLabelText cs then some ⟨cs, announcement ++ Punycode.encode cs⟩
  else none

end StoryPlayer.Host.Domain
