import StoryPlayer.Text.Hexadecimal

/-!
# Tables of characters

What is said of some characters, range by range. A table is spelled as rows of hexadecimal numbers
with commas between the rows; its rows ascend and have no character in common, so a character is looked
up by halving.

All tables are those of version 17 of Unicode, together with the characters that version 18 adds as
far as they are known.
-/

namespace StoryPlayer.Text

/-- What is said of the characters from the code point `first` to the code point `last`. -/
structure Row where
  first : Nat
  last : Nat
  values : List Nat
  deriving DecidableEq, Repr

structure Table where
  rows : Array Row

namespace Table

/-! ## Spelling -/

/-- The numbers that a row spells. -/
def numbers (row : List Char) : List Nat :=
  ((row.splitOnP fun c => (hexDigit? c).isNone).filter (· ≠ [])).map fun digits =>
    digits.foldl (fun n c => 16 * n + (hexDigit? c).getD 0) 0

/-- The rows that a table spells, as numbers. -/
def spelledRows (spelled : String) : List (List Nat) := (spelled.toList.splitOn ',').map numbers

/-- The table of ranges whose rows are the first and the last code point and the values. -/
def ofRanges (spelled : String) : Table :=
  ⟨((spelledRows spelled).filterMap fun
    | first :: last :: values => some ⟨first, last, values⟩
    | _ => none).toArray⟩

/-- The table of single characters whose rows are the code point and the values. -/
def ofPoints (spelled : String) : Table :=
  ⟨((spelledRows spelled).filterMap fun
    | point :: values => some ⟨point, point, values⟩
    | _ => none).toArray⟩

/-! ## Looking up -/

/-- The place of the first row that begins past a code point, if all rows before `low` begin no later
and all from `high` on begin past it. -/
def past (t : Table) (n low high : Nat) : Nat :=
  if low < high then
    let middle := (low + high) / 2
    if t.rows[middle]?.all (n < ·.first) then t.past n low middle
    else t.past n (middle + 1) high
  else low
termination_by high - low

/-- The row that a character belongs to. -/
def row? (t : Table) (c : Char) : Option Row :=
  match t.past c.toNat 0 t.rows.size with
  | 0 => none
  | i + 1 => t.rows[i]?.filter (c.toNat ≤ ·.last)

/-- What is said of a character. -/
def values? (t : Table) (c : Char) : Option (List Nat) := (t.row? c).map Row.values

/-- Whether a character is in a table. -/
def has (t : Table) (c : Char) : Bool := (t.row? c).isSome

end Table

end StoryPlayer.Text
