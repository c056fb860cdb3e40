/-!
# Writing JSON

The documents that the player writes consist of strings, lists and objects. They are written either
without any blanks or laid out on indented lines.
-/

namespace StoryPlayer.Json

inductive Document where
  | text (s : String)
  | list (items : List Document)
  | object (fields : List (String × Document))

/-- A lower-case hexadecimal digit. -/
def hexDigit (n : Nat) : Char := if n < 10 then Char.ofNat (0x30 + n) else Char.ofNat (0x57 + n)

/-- A character within a string: quotes, backslashes and the characters below U+0020 are escaped, and
nothing else is. -/
def escape (c : Char) : List Char :=
  if c = '"' then ['\\', '"']
  else if c = '\\' then ['\\', '\\']
  else if c = '\x08' then ['\\', 'b']
  else if c = '\x0c' then ['\\', 'f']
  else if c = '\n' then ['\\', 'n']
  else if c = '\r' then ['\\', 'r']
  else if c = '\t' then ['\\', 't']
  else if c.toNat < 0x20 then
    ['\\', 'u', '0', '0', hexDigit (c.toNat / 16), hexDigit (c.toNat % 16)]
  else [c]

/-- A string with its quotes. -/
def quote (s : String) : List Char := '"' :: (s.toList.flatMap escape ++ ['"'])

namespace Document

mutual

/-- A document without blanks. -/
def compactChars : Document → List Char
  | .text s => quote s
  | .list items => '[' :: (compactItems items ++ [']'])
  | .object fields => '\x7b' :: (compactFields fields ++ ['\x7d'])

def compactItems : List Document → List Char
  | [] => []
  | [d] => compactChars d
  | d :: ds => compactChars d ++ ',' :: compactItems ds

def compactFields : List (String × Document) → List Char
  | [] => []
  | [(name, d)] => quote name ++ ':' :: compactChars d
  | (name, d) :: fs => quote name ++ ':' :: (compactChars d ++ ',' :: compactFields fs)

end

/-- The start of a line that is indented by two spaces for each level. -/
def newLine (level : Nat) : List Char := '\n' :: List.replicate (2 * level) ' '

mutual

/-- A document on indented lines, whose own line is indented to `level`. -/
def prettyChars (level : Nat) : Document → List Char
  | .text s => quote s
  | .list [] => ['[', ']']
  | .list (d :: ds) => '[' :: (prettyItems (level + 1) (d :: ds) ++ newLine level ++ [']'])
  | .object [] => ['\x7b', '\x7d']
  | .object (f :: fs) =>
    '\x7b' :: (prettyFields (level + 1) (f :: fs) ++ newLine level ++ ['\x7d'])

def prettyItems (level : Nat) : List Document → List Char
  | [] => []
  | [d] => newLine level ++ prettyChars level d
  | d :: ds => newLine level ++ prettyChars level d ++ ',' :: prettyItems level ds

def prettyFields (level : Nat) : List (String × Document) → List Char
  | [] => []
  | [(name, d)] => newLine level ++ quote name ++ ':' :: ' ' :: prettyChars level d
  | (name, d) :: fs =>
    newLine level ++ quote name ++ ':' :: ' ' :: (prettyChars level d ++ ',' :: prettyFields level fs)

end

/-- The text of a document without blanks. -/
def compact (d : Document) : String := String.ofList (compactChars d)

/-- The text of a document on indented lines. -/
def pretty (d : Document) : String := String.ofList (prettyChars 0 d)

end Document

end StoryPlayer.Json
