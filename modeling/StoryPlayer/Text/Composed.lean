import StoryPlayer.Text.CombiningClass
import StoryPlayer.Text.Pieces

/-!
# Composed texts

Of all texts that are the same but for how letters and marks are put together, one stands for them
all: every character is taken into its pieces, the marks after a letter are put in the order of their
classes, and then each letter takes up the marks that join with it.
-/

namespace StoryPlayer.Text

/-! ## The order of marks -/

/-- An ordered text with one more character in front: a mark goes past those of lower classes. -/
def insertMark (c : Char) : List Char → List Char
  | [] => [c]
  | d :: ds =>
    if combiningClass d ≠ 0 ∧ combiningClass d < combiningClass c then d :: insertMark c ds
    else c :: d :: ds

/-- A text with the marks after each letter in the order of their classes. Those of one class keep
their order. -/
def withMarksInOrder : List Char → List Char
  | [] => []
  | c :: cs => insertMark c (withMarksInOrder cs)

/-! ## Joining -/

/-- Whether nothing keeps a character from the letter before it, given the marks between them, latest
first: they have lower classes. -/
def isInReach (marks : List Char) (c : Char) : Bool :=
  marks.head?.all fun mark => combiningClass mark < combiningClass c

/-- A letter, the marks after it that it has not taken up, latest first, and the text after them, with
all taken up that joins. -/
def takeUp (letter : Char) (marks : List Char) : List Char → List Char
  | [] => letter :: marks.reverse
  | c :: cs =>
    match if isInReach marks c then joined? letter c else none with
    | some composite => takeUp composite marks cs
    | none =>
      if combiningClass c = 0 then letter :: marks.reverse ++ takeUp c [] cs
      else takeUp letter (c :: marks) cs

/-- A text with all that joins taken up. Marks without a letter stay. -/
def withJoined (cs : List Char) : List Char :=
  let isLoose (c : Char) : Bool := combiningClass c ≠ 0
  match cs.dropWhile isLoose with
  | [] => cs
  | letter :: rest => cs.takeWhile isLoose ++ takeUp letter [] rest

/-- The text that stands for all that are the same as this one. -/
def composed (cs : List Char) : List Char := withJoined (withMarksInOrder (cs.flatMap pieces))

end StoryPlayer.Text
