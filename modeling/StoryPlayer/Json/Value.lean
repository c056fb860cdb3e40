import StoryPlayer.Json.Lexeme

/-!
# Values of JSON

A value is read from lexemes. The lists and objects part way through are kept as frames, so that
values nest to any depth. A value that nobody asks for is only read for its form: a number is just a
number, since none is ever asked for, and a string that denotes no text is still a value.
-/

namespace StoryPlayer.Json

inductive Value where
  | null
  | bool (b : Bool)
  | number
  | text (s : Option String)
  | list (items : List Value)
  | object (fields : List (Option String × Value))

/-- The value that a lexeme is by itself. -/
def Lexeme.value? : Lexeme → Option Value
  | .null => some .null
  | .bool b => some (.bool b)
  | .number => some .number
  | .text s => some (.text s)
  | _ => none

/-- A list or an object part way through: what it holds already, the latest first, and for an object
the name of the field whose value comes next. -/
inductive Frame where
  | list (done : List Value)
  | object (done : List (Option String × Value)) (name : Option String)

/-- What comes next in the innermost frame. -/
inductive Goal where
  | value
  /-- The first item of a list, or its end. -/
  | firstItem
  /-- The first field of an object, or its end. -/
  | firstField
  /-- The name of a further field. -/
  | field (done : List (Option String × Value))
  | colon (done : List (Option String × Value)) (name : Option String)
  /-- What may stand after this value: a comma, the end of its frame, or nothing. -/
  | after (v : Value)

/-- Read the one value that some lexemes spell. -/
def Value.read (goal : Goal) (frames : List Frame) : List Lexeme → Option Value
  | [] =>
    match goal, frames with
    | .after v, [] => some v
    | _, _ => none
  | l :: ls =>
    match goal, frames with
    | .value, frames =>
      match l with
      | .openList => read .firstItem frames ls
      | .openObject => read .firstField frames ls
      | l =>
        match l.value? with
        | some v => read (.after v) frames ls
        | none => none
    | .firstItem, frames =>
      match l with
      | .closeList => read (.after (.list [])) frames ls
      | .openList => read .firstItem (.list [] :: frames) ls
      | .openObject => read .firstField (.list [] :: frames) ls
      | l =>
        match l.value? with
        | some v => read (.after v) (.list [] :: frames) ls
        | none => none
    | .firstField, frames =>
      match l with
      | .closeObject => read (.after (.object [])) frames ls
      | .text name => read (.colon [] name) frames ls
      | _ => none
    | .field done, frames =>
      match l with
      | .text name => read (.colon done name) frames ls
      | _ => none
    | .colon done name, frames =>
      match l with
      | .colon => read .value (.object done name :: frames) ls
      | _ => none
    | .after v, .list done :: frames =>
      match l with
      | .comma => read .value (.list (v :: done) :: frames) ls
      | .closeList => read (.after (.list (v :: done).reverse)) frames ls
      | _ => none
    | .after v, .object done name :: frames =>
      match l with
      | .comma => read (.field ((name, v) :: done)) frames ls
      | .closeObject => read (.after (.object ((name, v) :: done).reverse)) frames ls
      | _ => none
    | .after _, [] => none

/-- The value that a text spells. -/
def Value.parse? (s : String) : Option Value := do
  Value.read .value [] (← lexemes? s.toList)

/-! ## Taking values apart -/

/-- The text of a string. -/
def Value.text? : Value → Option String
  | .text s => s
  | _ => none

/-- The texts of a list of strings. -/
def Value.texts? : Value → Option (List String)
  | .list vs => vs.mapM Value.text?
  | _ => none

/-- The fields of an object all of whose names are texts. -/
def Value.fields? : Value → Option (List (String × Value))
  | .object fs => fs.mapM fun (name, v) => name.map (·, v)
  | _ => none

/-- The value of the one field of this name; `some none` if there is none, and `none` if there are
several. -/
def field? (fields : List (String × Value)) (name : String) : Option (Option Value) :=
  match fields.filter fun (n, _) => n = name with
  | [] => some none
  | [(_, v)] => some (some v)
  | _ => none

end StoryPlayer.Json
