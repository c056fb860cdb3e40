import StoryPlayer.Script.TagBody
import StoryPlayer.Text.Lines

/-!
# Text lines

A text line is text with inline tags, `[body]`. The characters `[`, `]` and `@` stand for themselves
when they are doubled. A lone `@` ends the text, and the rest of the line is the body of a tag.
-/

namespace StoryPlayer.Script

/-- The token of a text that may be empty, given its characters, the latest first. -/
def textToken (text : List Char) : List Token :=
  if text.isEmpty then [] else [.text (String.ofList text.reverse)]

/-- The tokens of a text line, given the characters of the text that has begun, the latest first. -/
def textLineFrom (text : List Char) : List Char → Except Fault (List Token)
  | [] => .ok (textToken text)
  | '[' :: '[' :: rest => textLineFrom ('[' :: text) rest
  | ']' :: ']' :: rest => textLineFrom (']' :: text) rest
  | '@' :: '@' :: rest => textLineFrom ('@' :: text) rest
  | '[' :: rest =>
    match _h : rest.dropWhile (· ≠ ']') with
    | [] => .error (.unterminatedTag (String.ofList rest))
    | _ :: after => do
      let tag ← Tag.ofBody (rest.takeWhile (· ≠ ']'))
      let tokens ← textLineFrom [] after
      return textToken text ++ .tag tag :: tokens
  | '@' :: rest => do
    let tag ← Tag.ofBody rest
    return textToken text ++ [.tag tag]
  | ']' :: _ => .error (.unexpectedChar ']')
  | c :: rest => textLineFrom (c :: text) rest
termination_by cs => cs.length
decreasing_by
  all_goals simp only [List.length_cons]
  all_goals try omega
  have := Text.length_dropWhile_le (· ≠ ']') rest
  rw [_h, List.length_cons] at this
  omega

/-- The tokens of a text line. -/
def textLine (line : List Char) : Except Fault (List Token) := textLineFrom [] line

end StoryPlayer.Script
