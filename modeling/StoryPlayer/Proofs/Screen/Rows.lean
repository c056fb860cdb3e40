import StoryPlayer.Proofs.Text.Lines
import StoryPlayer.Screen.Layout

/-!
# Rows of a wrapped text

A row of a text that is too wide ends in one of two ways (`RowEnd`): before the last space that
stands among its first `w` characters, or after all of these if none of them but the first is a
space.  Then the spaces behind the row are dropped, and the next row begins with another character.
`Wrapped` follows a text row by row in this manner down to the last row, and the rows of every
paragraph come about so (`wrapped_rows`).

* `Strip`: a row and the spaces that are dropped behind it.
* `IsCut`: strips and a last row that are the whole text; only rows of full width end without a space.
* `wrap_isCut`: the rows of a paragraph with the spaces between them are the paragraph.
-/

namespace StoryPlayer.Screen

/-! ## Where a row ends -/

/-- The last space of a text. -/
theorem exists_last_space {cs : List Char} (h : ' ' ∈ cs) :
    ∃ front tail, cs = front ++ ' ' :: tail ∧ ' ' ∉ tail := by
  obtain ⟨tail, front, hcs, htail⟩ := List.eq_append_cons_of_mem (List.mem_reverse.mpr h)
  refine ⟨front.reverse, tail.reverse, ?_, fun hm => htail (List.mem_reverse.mp hm)⟩
  rw [← List.reverse_reverse cs, hcs]
  simp

theorem beforeLastSpace_append {tail : List Char} (h : ' ' ∉ tail) (front : List Char) :
    beforeLastSpace (front ++ ' ' :: tail) = front := by
  have hreverse : (front ++ ' ' :: tail).reverse = tail.reverse ++ ' ' :: front.reverse := by simp
  rw [beforeLastSpace, hreverse,
    Text.dropWhile_ne_append (fun hm => h (List.mem_reverse.mp hm)), List.drop_one, List.tail_cons,
    List.reverse_reverse]

theorem beforeLastSpace_of_not_mem {cs : List Char} (h : ' ' ∉ cs) : beforeLastSpace cs = [] := by
  have hall := Text.decide_ne_of_not_mem fun hm => h (List.mem_reverse.mp hm)
  rw [beforeLastSpace, List.dropWhile_eq_nil_iff.mpr hall]
  rfl

/-- How a row of a text that is wider than `w` ends, and what the text goes on with behind it. -/
inductive RowEnd (w : Nat) (row : List Char) : List Char → Prop
  /-- Before the last space among the first `w` characters. -/
  | atSpace {tail rest : List Char} : row ≠ [] → row.length + (tail.length + 1) = w → ' ' ∉ tail →
      rest ≠ [] → RowEnd w row (' ' :: (tail ++ rest))
  /-- After the first `w` characters; none of them is a space but the first perhaps. -/
  | full {rest : List Char} : row.length = w → ' ' ∉ row.tail → rest ≠ [] → RowEnd w row rest

/-- A text that is wider than `w` goes on behind its first row. -/
theorem exists_rowEnd {w : Nat} {cs : List Char} (h : w < cs.length) :
    ∃ below, cs = firstRow w cs ++ below ∧ RowEnd w (firstRow w cs) below := by
  have hsplit : cs = cs.take w ++ cs.drop w := (List.take_append_drop w cs).symm
  have hlen : (cs.take w).length = w := List.length_take_of_le (Nat.le_of_lt h)
  have hrest : cs.drop w ≠ [] := fun hd => Nat.not_le.mpr h (List.drop_eq_nil_iff.mp hd)
  have hfull (hnil : beforeLastSpace (cs.take w) = []) (hplain : ' ' ∉ (cs.take w).tail) :
      ∃ below, cs = firstRow w cs ++ below ∧ RowEnd w (firstRow w cs) below := by
    have hrow : firstRow w cs = cs.take w := by
      rw [firstRow, hnil]
      rfl
    rw [hrow]
    exact ⟨cs.drop w, hsplit, .full hlen hplain hrest⟩
  by_cases hspace : ' ' ∈ cs.take w
  · obtain ⟨front, tail, htake, htail⟩ := exists_last_space hspace
    have hfront : beforeLastSpace (cs.take w) = front := by
      rw [htake, beforeLastSpace_append htail]
    cases front with
    | nil =>
      refine hfull hfront ?_
      rw [htake]
      exact htail
    | cons c front =>
      have hrow : firstRow w cs = c :: front := by
        rw [firstRow, hfront]
        rfl
      rw [htake, List.length_append, List.length_cons] at hlen
      rw [htake, List.append_assoc, List.cons_append] at hsplit
      rw [hrow]
      exact ⟨_, hsplit, .atSpace (List.cons_ne_nil c front) hlen htail hrest⟩
  · exact hfull (beforeLastSpace_of_not_mem hspace) fun hm => hspace (List.mem_of_mem_tail hm)

namespace RowEnd

variable {w : Nat} {row below : List Char}

theorem length_pos (h : RowEnd w row below) (hw : 0 < w) : 0 < row.length := by
  cases h with
  | atSpace hne _ _ _ => exact List.length_pos_iff.mpr hne
  | full hlen _ _ => omega

theorem length_le (h : RowEnd w row below) : row.length ≤ w := by
  cases h with
  | atSpace _ hlen _ _ => omega
  | full hlen _ _ => exact Nat.le_of_eq hlen

theorem ne_nil (h : RowEnd w row below) : below ≠ [] := by
  cases h with
  | atSpace _ _ _ _ => exact List.cons_ne_nil _ _
  | full _ _ hrest => exact hrest

/-- Only a row of full width ends without a space. -/
theorem length_eq (h : RowEnd w row below) (hspace : below.head? ≠ some ' ') : row.length = w := by
  cases h with
  | atSpace _ _ _ _ => exact absurd rfl hspace
  | full hlen _ _ => exact hlen

end RowEnd

/-! ## The spaces behind a row -/

theorem getLast?_of_spaces {gap : List Char} (hne : gap ≠ []) (h : ∀ c ∈ gap, c = ' ') :
    gap.getLast? = some ' ' := by
  rw [List.getLast?_eq_some_getLast hne, h _ (List.getLast_mem hne)]

theorem takeWhile_space {gap rest : List Char} (hgap : ∀ c ∈ gap, c = ' ')
    (hrest : rest.head? ≠ some ' ') : (gap ++ rest).takeWhile (· = ' ') = gap := by
  rw [List.takeWhile_append_of_pos fun c hc => by simpa using hgap c hc]
  cases rest with
  | nil => simp
  | cons c rest => rw [List.takeWhile_cons_of_neg (by simpa using hrest), List.append_nil]

theorem dropWhile_space {gap rest : List Char} (hgap : ∀ c ∈ gap, c = ' ')
    (hrest : rest.head? ≠ some ' ') : (gap ++ rest).dropWhile (· = ' ') = rest := by
  rw [List.dropWhile_append_of_pos fun c hc => by simpa using hgap c hc]
  cases rest with
  | nil => rfl
  | cons c rest => exact List.dropWhile_cons_of_neg (by simpa using hrest)

theorem exists_gap (below : List Char) :
    ∃ gap rest, below = gap ++ rest ∧ (∀ c ∈ gap, c = ' ') ∧ rest.head? ≠ some ' ' := by
  refine ⟨below.takeWhile (· = ' '), below.dropWhile (· = ' '),
    List.takeWhile_append_dropWhile.symm, fun c hc => ?_, fun hhead => ?_⟩
  · simpa using List.mem_takeWhile_imp hc
  · simpa using Text.head?_dropWhile_eq_false hhead

/-! ## From row to row -/

/-- A text and its rows: the spaces behind each row but the last, `gap`, are dropped. -/
inductive Wrapped (w : Nat) : List Char → List (List Char) → Prop
  | last {cs : List Char} : cs ≠ [] → cs.length ≤ w → Wrapped w cs [cs]
  | row {row gap rest : List Char} {rows : List (List Char)} : RowEnd w row (gap ++ rest) →
      (∀ c ∈ gap, c = ' ') → rest.head? ≠ some ' ' → Wrapped w rest rows →
      Wrapped w (row ++ (gap ++ rest)) (row :: rows)

theorem rowsOf_of_length_le {w : Nat} (hw : 0 < w) {cs : List Char} (hne : cs ≠ [])
    (h : cs.length ≤ w) : rowsOf w hw cs = [cs] := by
  rw [rowsOf, dif_pos (List.drop_eq_nil_iff.mpr h), if_neg (by simpa using hne)]

theorem rowsOf_of_lt_length {w : Nat} (hw : 0 < w) {cs : List Char} (h : w < cs.length) :
    rowsOf w hw cs = firstRow w cs ::
      rowsOf w hw ((cs.drop (firstRow w cs).length).dropWhile (· = ' ')) := by
  rw [rowsOf, dif_neg fun hd => Nat.not_le.mpr h (List.drop_eq_nil_iff.mp hd)]

/-- A text that does not end with a space is wrapped row by row. -/
theorem wrapped_rowsOf {w : Nat} (hw : 0 < w) {cs : List Char} (hne : cs ≠ [])
    (hlast : cs.getLast? ≠ some ' ') : Wrapped w cs (rowsOf w hw cs) := by
  induction hn : cs.length using Nat.strong_induction_on generalizing cs with
  | _ n ih =>
    by_cases hle : cs.length ≤ w
    · rw [rowsOf_of_length_le hw hne hle]
      exact .last hne hle
    · have hlt : w < cs.length := Nat.lt_of_not_le hle
      obtain ⟨below, hcs, hend⟩ := exists_rowEnd hlt
      obtain ⟨gap, rest, rfl, hgap, hhead⟩ := exists_gap below
      rw [rowsOf_of_lt_length hw hlt]
      generalize firstRow w cs = row at hcs hend
      subst hcs
      rw [List.drop_left, dropWhile_space hgap hhead]
      -- Were the spaces all that is left, the text would end with one.
      have hrest : rest ≠ [] := by
        rintro rfl
        have hne : gap ≠ [] := by simpa using hend.ne_nil
        rw [List.append_nil, List.getLast?_append_of_ne_nil _ hne] at hlast
        exact hlast (getLast?_of_spaces hne hgap)
      refine .row hend hgap hhead (ih rest.length ?_ hrest ?_ rfl)
      · have hpos := hend.length_pos hw
        rw [← hn, List.length_append, List.length_append]
        omega
      · rwa [List.getLast?_append_of_ne_nil _ (List.append_ne_nil_of_right_ne_nil _ hrest),
          List.getLast?_append_of_ne_nil _ hrest] at hlast

theorem wrap_of_trimEnd_eq_nil {w : Nat} (hw : 0 < w) {line : String}
    (h : Text.trimEnd line.toList = []) : wrap w hw line = [""] := by
  rw [wrap, h]
  rfl

theorem wrap_of_trimEnd_ne_nil {w : Nat} (hw : 0 < w) {line : String}
    (h : Text.trimEnd line.toList ≠ []) :
    wrap w hw line = (rowsOf w hw (Text.trimEnd line.toList)).map String.ofList :=
  if_neg (by simpa using h)

/-- The rows of a paragraph, as lists of characters. -/
def rows (w : Nat) (hw : 0 < w) (line : String) : List (List Char) :=
  (wrap w hw line).map String.toList

/-- **Every paragraph is wrapped row by row.** -/
theorem wrapped_rows {w : Nat} (hw : 0 < w) {line : String}
    (h : Text.trimEnd line.toList ≠ []) :
    Wrapped w (Text.trimEnd line.toList) (rows w hw line) := by
  have hrows : rows w hw line = rowsOf w hw (Text.trimEnd line.toList) := by
    rw [rows, wrap_of_trimEnd_ne_nil hw h, List.map_map]
    exact List.map_id'' (fun _ => String.toList_ofList) _
  rw [hrows]
  refine wrapped_rowsOf hw h fun hlast => ?_
  exact absurd (Text.isBlank_of_mem_getLast?_trimEnd hlast) (by decide)

/-! ## Strips -/

/-- A row and the spaces behind it that no row shows. -/
structure Strip where
  row : List Char
  gap : List Char
  deriving DecidableEq

/-- The part of the text that a strip is. -/
def Strip.text (s : Strip) : List Char := s.row ++ s.gap

/-- The rows of a text, each with the spaces that the text has behind it. -/
def stripsOf (cs : List Char) : List (List Char) → List Strip
  | [] => []
  | row :: rows =>
    ⟨row, (cs.drop row.length).takeWhile (· = ' ')⟩ ::
      stripsOf ((cs.drop row.length).dropWhile (· = ' ')) rows

theorem map_row_stripsOf (cs : List Char) (rows : List (List Char)) :
    (stripsOf cs rows).map Strip.row = rows := by
  induction rows generalizing cs with
  | nil => rfl
  | cons row rows ih => rw [stripsOf, List.map_cons, ih]

theorem stripsOf_last (cs : List Char) : stripsOf cs [cs] = [⟨cs, []⟩] := by
  simp [stripsOf]

theorem stripsOf_row {gap rest : List Char} (hgap : ∀ c ∈ gap, c = ' ')
    (hrest : rest.head? ≠ some ' ') (row : List Char) (rows : List (List Char)) :
    stripsOf (row ++ (gap ++ rest)) (row :: rows) = ⟨row, gap⟩ :: stripsOf rest rows := by
  rw [stripsOf, List.drop_left, takeWhile_space hgap hrest, dropWhile_space hgap hrest]

/-- `IsCut w cs broken last`: the text `cs` is cut into the strips `broken` and the row `last`. -/
structure IsCut (w : Nat) (cs : List Char) (broken : List Strip) (last : List Char) : Prop where
  text : broken.flatMap Strip.text ++ last = cs
  row_length : ∀ row ∈ broken.map Strip.row ++ [last], 1 ≤ row.length ∧ row.length ≤ w
  gap_eq : ∀ strip ∈ broken, ∀ c ∈ strip.gap, c = ' '
  full : ∀ strip ∈ broken, strip.gap = [] → strip.row.length = w

theorem Wrapped.exists_isCut {w : Nat} (hw : 0 < w) {cs : List Char} {rows : List (List Char)}
    (h : Wrapped w cs rows) :
    ∃ broken last, IsCut w cs broken last ∧ stripsOf cs rows = broken ++ [⟨last, []⟩] := by
  induction h with
  | @last cs hne hle =>
    refine ⟨[], cs, ⟨rfl, ?_, nofun, nofun⟩, stripsOf_last cs⟩
    intro row hrow
    obtain rfl : row = cs := by simpa using hrow
    exact ⟨List.length_pos_iff.mpr hne, hle⟩
  | @row row gap rest rows hend hgap hhead _ ih =>
    obtain ⟨broken, last, hcut, hstrips⟩ := ih
    refine ⟨⟨row, gap⟩ :: broken, last, ⟨?_, ?_, ?_, ?_⟩, ?_⟩
    · rw [List.flatMap_cons, List.append_assoc, hcut.text, Strip.text, List.append_assoc]
    · exact List.forall_mem_cons.mpr ⟨⟨hend.length_pos hw, hend.length_le⟩, hcut.row_length⟩
    · exact List.forall_mem_cons.mpr ⟨hgap, hcut.gap_eq⟩
    · refine List.forall_mem_cons.mpr ⟨fun hnil => hend.length_eq ?_, hcut.full⟩
      rw [show gap = [] from hnil]
      exact hhead
    · rw [stripsOf_row hgap hhead, hstrips]
      rfl

/-- **Wrapping loses and invents nothing.**  The rows of a paragraph are those of a cut of its text
without the blanks at its end; a paragraph of nothing but blanks is one empty row. -/
theorem wrap_isCut {w : Nat} (hw : 0 < w) (line : String) :
    if Text.trimEnd line.toList = [] then wrap w hw line = [""]
    else ∃ broken last, IsCut w (Text.trimEnd line.toList) broken last ∧
      wrap w hw line = (broken.map Strip.row ++ [last]).map String.ofList := by
  split
  · next h => exact wrap_of_trimEnd_eq_nil hw h
  · next h =>
    obtain ⟨broken, last, hcut, hstrips⟩ := (wrapped_rows hw h).exists_isCut hw
    refine ⟨broken, last, hcut, ?_⟩
    have hrows : rows w hw line = broken.map Strip.row ++ [last] := by
      rw [← map_row_stripsOf (Text.trimEnd line.toList) (rows w hw line), hstrips, List.map_append]
      rfl
    rw [← hrows, rows, List.map_map]
    exact (List.map_id'' (fun _ => String.ofList_toList) _).symm

theorem wrap_isCut_of_two_rows :
    0 < 10 ∧ ∃ broken last, IsCut 10 (Text.trimEnd "the quick brown fox".toList) broken last ∧
      wrap 10 (by decide) "the quick brown fox" =
        (broken.map Strip.row ++ [last]).map String.ofList := by
  have h := wrap_isCut (w := 10) (by decide) "the quick brown fox"
  rw [if_neg (by decide)] at h
  exact ⟨by decide, h⟩

example : wrap 10 (by decide) "the quick brown fox  " = ["the quick", "brown fox"] := by
  decide +kernel

end StoryPlayer.Screen
