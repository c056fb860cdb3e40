import StoryPlayer.Script.Fault
import StoryPlayer.Script.Token
import StoryPlayer.Text.Blank

/-!
# Tag bodies

The body of a tag is its name and then its attributes, separated by blanks: `name key=value flag`.
Between double quotes a blank is an ordinary character; the quotes themselves are dropped, wherever
they stand in a word.
-/

namespace StoryPlayer.Script

open Text (isBlank)

/-- The part of a word before its first `=`. -/
def keyPart (word : List Char) : List Char := word.takeWhile (· ≠ '=')

/-- The words of a body, given the characters of the word that has begun, the latest first, and
whether a quotation is open. -/
def wordsFrom (quoted : Bool) (word : List Char) : List Char → Except Fault (List (List Char))
  | [] =>
    if quoted then .error (.unterminatedQuote (String.ofList (keyPart word.reverse)))
    else .ok (if word.isEmpty then [] else [word.reverse])
  | c :: rest =>
    if c = '"' then wordsFrom (!quoted) word rest
    else if isBlank c && !quoted then do
      let words ← wordsFrom false [] rest
      return if word.isEmpty then words else word.reverse :: words
    else wordsFrom quoted (c :: word) rest

/-- The words of a body. -/
def words (body : List Char) : Except Fault (List (List Char)) := wordsFrom false [] body

/-- The key and the value that a word gives: what stands before and after its first `=`, or the word
itself and `true`. -/
def keyValue (word : List Char) : String × String :=
  match word.dropWhile (· ≠ '=') with
  | [] => (String.ofList word, "true")
  | _ :: value => (String.ofList (keyPart word), String.ofList value)

/-- The tag of a name and the words after it; of two words with one key the later one counts. -/
def Tag.ofWords (name : List Char) (words : List (List Char)) : Tag :=
  words.foldl (fun tag word => tag.set (keyValue word).1 (keyValue word).2)
    (Tag.named (String.ofList name))

/-- The tag that a body describes. -/
def Tag.ofBody (body : List Char) : Except Fault Tag := do
  match ← words body with
  | [] => .error .emptyTag
  | name :: rest => if name.contains '=' then .error .emptyTag else return Tag.ofWords name rest

end StoryPlayer.Script
