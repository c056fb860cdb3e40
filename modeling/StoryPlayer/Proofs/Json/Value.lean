import StoryPlayer.Json.Value
import StoryPlayer.Proofs.Json.Spelling

/-!
# Reading values back

A value is a text of its lexemes, with any blanks between them, and every such text is read as that
value (`Value.parse?_of_spells`).  The reader keeps the lists and objects part way through in frames, so
the induction goes over the value for any frames and for any lexemes behind it
(`Value.read_lexemes`).
-/

namespace StoryPlayer.Json

namespace Value

mutual

/-- The lexemes of a value. -/
def lexemes : Value → List Lexeme
  | .null => [.null]
  | .bool b => [.bool b]
  | .number => [.number]
  | .text s => [.text s]
  | .list vs => .openList :: (itemLexemes vs ++ [.closeList])
  | .object fs => .openObject :: (fieldLexemes fs ++ [.closeObject])

def itemLexemes : List Value → List Lexeme
  | [] => []
  | [v] => lexemes v
  | v :: vs => lexemes v ++ .comma :: itemLexemes vs

def fieldLexemes : List (Option String × Value) → List Lexeme
  | [] => []
  | [(name, v)] => .text name :: .colon :: lexemes v
  | (name, v) :: fs => .text name :: .colon :: (lexemes v ++ .comma :: fieldLexemes fs)

end

theorem itemLexemes_cons_cons (v w : Value) (vs : List Value) :
    itemLexemes (v :: w :: vs) = v.lexemes ++ .comma :: itemLexemes (w :: vs) := rfl

theorem fieldLexemes_cons_cons (name : Option String) (v : Value) (f : Option String × Value)
    (fs : List (Option String × Value)) :
    fieldLexemes ((name, v) :: f :: fs) =
      .text name :: .colon :: (v.lexemes ++ .comma :: fieldLexemes (f :: fs)) := rfl

/-- A text of a value, with any blanks between its lexemes. -/
def Spells (v : Value) (cs : List Char) : Prop := SpellsAll v.lexemes cs

/-! ## Reading -/

/-- The first item of a list is read like any other. -/
theorem read_firstItem (v : Value) (vs : List Value) (frames : List Frame) (ls : List Lexeme) :
    read .firstItem frames (itemLexemes (v :: vs) ++ ls) =
      read .value (.list [] :: frames) (itemLexemes (v :: vs) ++ ls) := by
  cases vs with
  | nil =>
    cases v with
    | _ => rfl
  | cons w vs =>
    cases v with
    | _ => rfl

/-- So is the first field of an object. -/
theorem read_firstField (f : Option String × Value) (fs : List (Option String × Value))
    (frames : List Frame) (ls : List Lexeme) :
    read .firstField frames (fieldLexemes (f :: fs) ++ ls) =
      read (.field []) frames (fieldLexemes (f :: fs) ++ ls) := by
  cases fs with
  | nil => rfl
  | cons f' fs => rfl

mutual

/-- **A value is read from its lexemes,** whatever follows them. -/
theorem read_lexemes : ∀ (v : Value) (frames : List Frame) (ls : List Lexeme),
    read .value frames (v.lexemes ++ ls) = read (.after v) frames ls
  | .null, _, _ | .bool _, _, _ | .number, _, _ | .text _, _, _ | .list [], _, _
  | .object [], _, _ => rfl
  | .list (v :: vs), frames, ls => by
    have hitems := read_items (v :: vs) [] frames ls (List.cons_ne_nil v vs)
    rw [lexemes, List.cons_append, List.append_assoc, List.singleton_append]
    exact (read_firstItem v vs frames (.closeList :: ls)).trans hitems
  | .object (f :: fs), frames, ls => by
    have hfields := read_fields (f :: fs) [] frames ls (List.cons_ne_nil f fs)
    rw [lexemes, List.cons_append, List.append_assoc, List.singleton_append]
    exact (read_firstField f fs frames (.closeObject :: ls)).trans hfields

/-- The items of a list come behind those that have been read. -/
theorem read_items : ∀ (vs done : List Value) (frames : List Frame) (ls : List Lexeme), vs ≠ [] →
    read .value (.list done :: frames) (itemLexemes vs ++ .closeList :: ls) =
      read (.after (.list (done.reverse ++ vs))) frames ls
  | [], _, _, _, h => absurd rfl h
  | [v], done, frames, ls, _ => by
    rw [itemLexemes, read_lexemes v, ← List.reverse_cons]
    rfl
  | v :: w :: vs, done, frames, ls, _ => by
    have hrest := read_items (w :: vs) (v :: done) frames ls (List.cons_ne_nil w vs)
    rw [List.reverse_cons, List.append_assoc] at hrest
    rw [itemLexemes_cons_cons, List.append_assoc, List.cons_append, read_lexemes v]
    exact hrest

theorem read_fields : ∀ (fs done : List (Option String × Value)) (frames : List Frame)
    (ls : List Lexeme), fs ≠ [] →
    read (.field done) frames (fieldLexemes fs ++ .closeObject :: ls) =
      read (.after (.object (done.reverse ++ fs))) frames ls
  | [], _, _, _, h => absurd rfl h
  | [(name, v)], done, frames, ls, _ => by
    rw [fieldLexemes, List.cons_append, List.cons_append, ← List.reverse_cons]
    exact read_lexemes v (.object done name :: frames) (.closeObject :: ls)
  | (name, v) :: f :: fs, done, frames, ls, _ => by
    have hrest := read_fields (f :: fs) ((name, v) :: done) frames ls (List.cons_ne_nil f fs)
    rw [List.reverse_cons, List.append_assoc] at hrest
    rw [fieldLexemes_cons_cons, List.cons_append, List.cons_append, List.append_assoc,
      List.cons_append]
    exact (read_lexemes v (.object done name :: frames) _).trans hrest

end

/-! ## Numbers end -/

theorem separate_cons {l : Lexeme} {ls : List Lexeme} (hl : l ≠ .number) (h : Separate ls) :
    Separate (l :: ls) := by
  cases ls with
  | nil => exact .singleton l
  | cons next ls => exact .cons_cons (fun hnumber => absurd hnumber hl) h

/-- Punctuation may stand behind anything. -/
theorem separate_append {ls rest : List Lexeme} {l : Lexeme} (h : Separate ls)
    (hl : l.isMark = true) (hrest : Separate rest) : Separate (ls ++ l :: rest) := by
  have hmark : l ≠ .number := by
    rintro rfl
    cases hl
  refine List.isChain_append.mpr ⟨h, separate_cons hmark hrest, ?_⟩
  intro x _ y hy _
  cases hy
  exact hl

mutual

/-- In a value every number is followed by punctuation, unless it stands at the end. -/
theorem separate_lexemes : ∀ v : Value, Separate v.lexemes
  | .null | .bool _ | .number | .text _ => .singleton _
  | .list vs => separate_cons nofun (separate_append (separate_items vs) rfl .nil)
  | .object fs => separate_cons nofun (separate_append (separate_fields fs) rfl .nil)

theorem separate_items : ∀ vs : List Value, Separate (itemLexemes vs)
  | [] => .nil
  | [v] => separate_lexemes v
  | v :: w :: vs => separate_append (separate_lexemes v) rfl (separate_items (w :: vs))

theorem separate_fields : ∀ fs : List (Option String × Value), Separate (fieldLexemes fs)
  | [] => .nil
  | [(_, v)] => separate_cons nofun (separate_cons nofun (separate_lexemes v))
  | (_, v) :: f :: fs =>
    separate_cons nofun (separate_cons nofun
      (separate_append (separate_lexemes v) rfl (separate_fields (f :: fs))))

end

/-- **Every text of a value is read as that value.** -/
theorem parse?_of_spells {v : Value} {cs : List Char} (h : v.Spells cs) :
    parse? (String.ofList cs) = some v := by
  have hread := read_lexemes v [] []
  rw [List.append_nil] at hread
  rw [parse?, String.toList_ofList, lexemes?_of_spellsAll h (separate_lexemes v)]
  exact hread

end Value

end StoryPlayer.Json
