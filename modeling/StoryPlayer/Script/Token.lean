import StoryPlayer.Script.Attributes
import StoryPlayer.Json.Document

/-!
# Tokens of a script

A script is a list of labels, tags and texts.
-/

namespace StoryPlayer.Script

/-- A place in the story, and the heading that it is shown under. -/
structure Label where
  label : String
  heading : String
  deriving DecidableEq

/-- A named instruction with attributes. -/
structure Tag where
  name : String
  attributes : Attributes
  deriving DecidableEq

namespace Tag

/-- The tag of this name without attributes. -/
def named (name : String) : Tag := ⟨name, .empty⟩

/-- The tag with one more attribute, in place of what was under its key. -/
def set (t : Tag) (key value : String) : Tag := { t with attributes := t.attributes.insert key value }

/-- The value of an attribute. -/
def get? (t : Tag) (key : String) : Option String := t.attributes.get? key

end Tag

inductive Token where
  | label (l : Label)
  | tag (t : Tag)
  | text (s : String)
  deriving DecidableEq

/-! ## As documents -/

open Json (Document)

/-- Attributes as an object, in the order of their keys. -/
def Attributes.toDocument (a : Attributes) : Document :=
  .object (a.entries.map fun (key, value) => (key, .text value))

/-- A token as an object that names its kind first; a tag without attributes leaves them out. -/
def Token.toDocument : Token → Document
  | .label l =>
    .object [("type", .text "label"), ("label", .text l.label), ("heading", .text l.heading)]
  | .tag t =>
    .object ([("type", .text "tag"), ("name", .text t.name)] ++
      if t.attributes.isEmpty then [] else [("attributes", t.attributes.toDocument)])
  | .text s => .object [("type", .text "text"), ("text", .text s)]

/-- Tokens as a list of objects. -/
def Token.listDocument (ts : List Token) : Document := .list (ts.map Token.toDocument)

end StoryPlayer.Script
