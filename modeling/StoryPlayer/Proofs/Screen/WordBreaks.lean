import StoryPlayer.Proofs.Screen.Rows

/-!
# Words of a wrapped text

A word is a maximal run of characters other than spaces (`IsWord`).  The end of a row cuts a word of at
most `w` characters in one case only: the text begins with a single space, the word stands right
behind it, and it has exactly `w` characters (`RowEnd.cuts_word`).  And a row that ends at a space
leaves out the word behind it if that word, with the row and the spaces, would take `w` characters or
more (`RowEnd.le_of_word`), although exactly `w` would still fit.

* `word_in_one_row_iff`: which words that are not too long stay in one row.
* `le_of_next_word`: how much room a row leaves that ends at a space.
-/

namespace StoryPlayer.Screen

/-! ## Words and where they stand -/

/-- `IsWord before word after`: between `before` and `after` stands `word`, which has no spaces and has
a space or nothing on either side. -/
structure IsWord (before word after : List Char) : Prop where
  ne_nil : word ≠ []
  plain : ' ' ∉ word
  space_before : ∀ c ∈ before.getLast?, c = ' '
  space_after : ∀ c ∈ after.head?, c = ' '

theorem IsWord.head?_after {before word after : List Char} (h : IsWord before word after)
    (hne : after ≠ []) : after.head? = some ' ' := by
  obtain ⟨c, more, rfl⟩ := List.exists_cons_of_ne_nil hne
  rw [List.head?_cons, h.space_after c rfl]

/-- A word goes on as long as no space comes. -/
theorem IsWord.exists_eq_append {before word after front rest : List Char}
    (h : IsWord before word after) (hfront : ' ' ∉ front) (heq : word ++ after = front ++ rest) :
    ∃ back, word = front ++ back ∧ rest = back ++ after := by
  rcases List.append_eq_append_iff.mp heq with ⟨more, rfl, hafter⟩ | ⟨back, hword, hrest⟩
  · cases more with
    | nil => exact ⟨[], by simp, hafter.symm⟩
    | cons c more =>
      have hc : c = ' ' := h.space_after c (by rw [hafter]; rfl)
      exact absurd (by simp [hc]) hfront
  · exact ⟨back, hword, hrest⟩

/-- Of what stands before a word only the last character is known: it is a space. -/
theorem IsWord.eq_space {c : Char} {more word after : List Char}
    (h : IsWord (c :: more) word after) (hplain : ' ' ∉ more) : c :: more = [' '] := by
  have hlast := h.space_before _ (List.getLast?_eq_some_getLast (List.cons_ne_nil c more))
  cases more with
  | nil => exact congrArg (fun d => [d]) hlast
  | cons d more =>
    rw [List.getLast_cons (List.cons_ne_nil d more)] at hlast
    exact absurd (hlast ▸ List.getLast_mem (List.cons_ne_nil d more)) hplain

theorem isWord_iff (before word after : List Char) :
    IsWord before word after ↔ (word ≠ [] ∧ ' ' ∉ word) ∧
      before.getLast?.all (· = ' ') = true ∧ after.head?.all (· = ' ') = true := by
  simp only [Option.all_eq_true, decide_eq_true_eq]
  exact ⟨fun h => ⟨⟨h.ne_nil, h.plain⟩, h.space_before, h.space_after⟩,
    fun ⟨⟨hne, hplain⟩, hbefore, hafter⟩ => ⟨hne, hplain, hbefore, hafter⟩⟩

instance (before word after : List Char) : Decidable (IsWord before word after) :=
  decidable_of_iff _ (isWord_iff before word after).symm

/-- The rows of a paragraph with the spaces behind them. -/
def strips (w : Nat) (hw : 0 < w) (line : String) : List Strip :=
  stripsOf (Text.trimEnd line.toList) (rows w hw line)

/-- The word behind `before` stands in one of the rows. -/
def InOneRow (strips : List Strip) (before word : List Char) : Prop :=
  ∃ above strip below left right, strips = above ++ strip :: below ∧
    before = above.flatMap Strip.text ++ left ∧ strip.row = left ++ (word ++ right)

theorem inOneRow_first (left word right gap : List Char) (below : List Strip) :
    InOneRow (⟨left ++ (word ++ right), gap⟩ :: below) left word :=
  ⟨[], _, below, left, right, rfl, rfl, rfl⟩

theorem InOneRow.below {strips : List Strip} {before word : List Char}
    (h : InOneRow strips before word) (strip : Strip) :
    InOneRow (strip :: strips) (strip.text ++ before) word := by
  obtain ⟨above, s, below, left, right, rfl, rfl, hrow⟩ := h
  refine ⟨strip :: above, s, below, left, right, rfl, ?_, hrow⟩
  rw [List.flatMap_cons, List.append_assoc]

/-- A word stands in a row, behind it, or at its end with a part on either side. -/
theorem place_of_word {row below before word after : List Char}
    (h : row ++ below = before ++ (word ++ after)) :
    (∃ right, row = before ++ (word ++ right)) ∨
    (∃ between, before = row ++ between ∧ below = between ++ (word ++ after)) ∨
    ∃ front back, front ≠ [] ∧ back ≠ [] ∧ word = front ++ back ∧ row = before ++ front ∧
      below = back ++ after := by
  rcases List.append_eq_append_iff.mp h with ⟨between, hbefore, hbelow⟩ | ⟨front, hrow, hword⟩
  · exact .inr (.inl ⟨between, hbefore, hbelow⟩)
  rcases List.append_eq_append_iff.mp hword with ⟨right, rfl, -⟩ | ⟨back, rfl, hbelow⟩
  · exact .inl ⟨right, hrow⟩
  by_cases hback : back = []
  · exact .inl ⟨[], by simpa [hback] using hrow⟩
  by_cases hfront : front = []
  · subst hfront
    exact .inr (.inl ⟨[], by simpa using hrow.symm, by simpa using hbelow⟩)
  · exact .inr (.inr ⟨front, back, hfront, hback, rfl, hrow, hbelow⟩)

/-- A word does not begin among spaces. -/
theorem exists_behind_spaces {gap rest between word after : List Char}
    (h : gap ++ rest = between ++ (word ++ after)) (hgap : ∀ c ∈ gap, c = ' ') (hne : word ≠ [])
    (hplain : ' ' ∉ word) : ∃ before, between = gap ++ before ∧ rest = before ++ (word ++ after) := by
  rcases List.append_eq_append_iff.mp h with ⟨before, hbetween, hrest⟩ | ⟨spaces, rfl, hword⟩
  · exact ⟨before, hbetween, hrest⟩
  · cases spaces with
    | nil => exact ⟨[], by simp, hword.symm⟩
    | cons c spaces =>
      obtain ⟨d, more, rfl⟩ := List.exists_cons_of_ne_nil hne
      obtain ⟨rfl, -⟩ := List.cons.inj hword
      have hd : d = ' ' := hgap d (by simp)
      exact absurd (hd ▸ List.mem_cons_self) hplain

/-! ## Words that stay whole -/

/-- The end of a row cuts a word that is not too long only behind a single space at the start. -/
theorem RowEnd.cuts_word {w : Nat} {row below before front back after : List Char}
    (h : RowEnd w row below) (hrow : row = before ++ front) (hbelow : below = back ++ after)
    (hfront : front ≠ []) (hback : back ≠ []) (hword : IsWord before (front ++ back) after)
    (hfit : (front ++ back).length ≤ w) :
    before = [' '] ∧ (front ++ back).length = w ∧ 1 < w := by
  have hfront := List.length_pos_iff.mpr hfront
  have hback' := List.length_pos_iff.mpr hback
  rw [List.length_append] at hfit ⊢
  cases h with
  | atSpace hne hlen htail hrest =>
    -- The word would go on with the space that the row ends at.
    obtain ⟨c, more, rfl⟩ := List.exists_cons_of_ne_nil hback
    obtain ⟨rfl, -⟩ := List.cons.inj hbelow
    exact absurd (by simp) hword.plain
  | full hlen hplain hrest =>
    rw [hrow, List.length_append] at hlen
    cases before with
    | nil =>
      rw [List.length_nil] at hlen
      omega
    | cons c more =>
      rw [hrow, List.cons_append, List.tail_cons] at hplain
      have hbefore := hword.eq_space fun hm => hplain (List.mem_append_left front hm)
      rw [hbefore, List.length_singleton] at hlen
      exact ⟨hbefore, by omega, by omega⟩

theorem Wrapped.inOneRow {w : Nat} {cs : List Char} {rows : List (List Char)}
    (h : Wrapped w cs rows) {before word after : List Char} (hcs : cs = before ++ (word ++ after))
    (hword : IsWord before word after) (hfit : word.length ≤ w)
    (hfree : ¬(before = [' '] ∧ word.length = w ∧ 1 < w)) :
    InOneRow (stripsOf cs rows) before word := by
  induction h generalizing before with
  | last hne hle =>
    rw [stripsOf_last, hcs]
    exact inOneRow_first before word after [] []
  | @row row gap rest rows hend hgap hhead _ ih =>
    rw [stripsOf_row hgap hhead]
    rcases place_of_word hcs with ⟨right, rfl⟩ | ⟨between, rfl, hbelow⟩ |
      ⟨front, back, hfront, hback, rfl, hrow, hbelow⟩
    · exact inOneRow_first before word right gap _
    · -- The word stands behind the row, and so behind the spaces.
      obtain ⟨before, rfl, hrest⟩ :=
        exists_behind_spaces hbelow hgap hword.ne_nil hword.plain
      have hword' : IsWord before word after := by
        refine ⟨hword.ne_nil, hword.plain, fun c hc => hword.space_before c ?_, hword.space_after⟩
        rw [← List.append_assoc, List.getLast?_append, Option.mem_def.mp hc, Option.some_or]
        rfl
      have hfree' : ¬(before = [' '] ∧ word.length = w ∧ 1 < w) := by
        rintro ⟨rfl, -, -⟩
        exact hhead (by rw [hrest]; rfl)
      have hbelow' := (ih hrest hword' hfree').below ⟨row, gap⟩
      rwa [Strip.text, List.append_assoc] at hbelow'
    · exact absurd (hend.cuts_word hrow hbelow hfront hback hword hfit) hfree

/-- A word of full width right behind a single space at the start is cut. -/
theorem Wrapped.not_inOneRow {w : Nat} {cs : List Char} {rows : List (List Char)}
    (h : Wrapped w cs rows) {word after : List Char} (hcs : cs = [' '] ++ (word ++ after))
    (hlen : word.length = w) (hw : 1 < w) : ¬InOneRow (stripsOf cs rows) [' '] word := by
  rintro ⟨above, strip, below, left, right, hstrips, hbefore, hrow⟩
  cases h with
  | last hne hle =>
    rw [hcs, List.length_append, List.length_append, List.length_singleton] at hle
    omega
  | @row row gap rest rows hend hgap hhead _ =>
    rw [stripsOf_row hgap hhead] at hstrips
    have hbefore := congrArg List.length hbefore
    cases above with
    | nil =>
      obtain ⟨rfl, -⟩ := List.cons.inj hstrips
      have hrow := congrArg List.length hrow
      have hle := hend.length_le
      simp only [List.flatMap_nil, List.nil_append, List.length_append, List.length_singleton]
        at hbefore hrow
      omega
    | cons first above =>
      obtain ⟨rfl, -⟩ := List.cons.inj hstrips
      have hpos := hend.length_pos (Nat.zero_lt_of_lt hw)
      simp only [List.flatMap_cons, Strip.text, List.length_append, List.length_singleton]
        at hbefore
      -- The first row would be the space alone, with no space behind it.
      obtain rfl : gap = [] := List.length_eq_zero_iff.mp (by omega)
      have hfull := hend.length_eq hhead
      omega

/-- **Which words stay in one row.**  Of the words of a paragraph that are not wider than the screen,
only one is cut: a word of full width that stands right behind a single space at the start. -/
theorem word_in_one_row_iff {w : Nat} (hw : 0 < w) {line : String} {before word after : List Char}
    (hline : Text.trimEnd line.toList = before ++ (word ++ after))
    (hword : IsWord before word after) (hfit : word.length ≤ w) :
    InOneRow (strips w hw line) before word ↔ ¬(before = [' '] ∧ word.length = w ∧ 1 < w) := by
  have hne : Text.trimEnd line.toList ≠ [] := by
    rw [hline]
    exact List.append_ne_nil_of_right_ne_nil _ (List.append_ne_nil_of_left_ne_nil hword.ne_nil _)
  have hwrapped := wrapped_rows hw hne
  constructor
  · rintro h ⟨rfl, hlen, hw'⟩
    exact hwrapped.not_inOneRow hline hlen hw' h
  · exact hwrapped.inOneRow hline hword hfit

/-- One more space in front, and the same word is not cut. -/
theorem word_in_one_row_of_two_spaces :
    0 < 3 ∧ Text.trimEnd "  abc".toList = [' ', ' '] ++ ("abc".toList ++ []) ∧
    IsWord [' ', ' '] "abc".toList [] ∧ "abc".toList.length ≤ 3 ∧
    InOneRow (strips 3 (by decide) "  abc") [' ', ' '] "abc".toList := by
  have hline : Text.trimEnd "  abc".toList = [' ', ' '] ++ ("abc".toList ++ []) := by decide
  have hword : IsWord [' ', ' '] "abc".toList [] := by decide
  have hfit : "abc".toList.length ≤ 3 := by decide
  exact ⟨by decide, hline, hword, hfit,
    (word_in_one_row_iff (by decide) hline hword hfit).mpr (by decide)⟩

/-- A word of three characters that no row of three characters shows. -/
theorem word_cut_behind_space :
    wrap 3 (by decide) " abc" = [" ab", "c"] ∧
    Text.trimEnd " abc".toList = [' '] ++ ("abc".toList ++ []) ∧
    IsWord [' '] "abc".toList [] ∧ "abc".toList.length ≤ 3 ∧
    ∀ row ∈ rows 3 (by decide) " abc", ¬"abc".toList <:+: row := by
  have hrows : wrap 3 (by decide) " abc" = [" ab", "c"] := by decide +kernel
  refine ⟨hrows, by decide, by decide, by decide, ?_⟩
  rw [rows, hrows]
  decide

/-! ## Words that are put off -/

/-- Behind a row that ends at a space there is no room for the next word, or room for exactly this
word, and then a space follows it. -/
theorem RowEnd.le_of_word {w : Nat} {row gap word after : List Char}
    (h : RowEnd w row (gap ++ (word ++ after))) (hgap : ∀ c ∈ gap, c = ' ') (hne : gap ≠ [])
    (hword : IsWord gap word after) :
    w ≤ row.length + gap.length + word.length ∧
      (row.length + gap.length + word.length = w → after.head? = some ' ') := by
  have hpos := List.length_pos_iff.mpr hword.ne_nil
  have hspace := List.length_pos_iff.mpr hne
  generalize hbelow : gap ++ (word ++ after) = below at h
  cases h with
  | full hlen hplain hrest => exact ⟨by omega, by omega⟩
  | @atSpace tail rest hrow hlen htail hrest =>
    obtain ⟨c, spaces, rfl⟩ := List.exists_cons_of_ne_nil hne
    obtain ⟨rfl, hbehind⟩ := List.cons.inj hbelow
    rw [List.length_cons]
    rcases List.append_eq_append_iff.mp hbehind with ⟨front, rfl, hrest'⟩ | ⟨more, rfl, -⟩
    · -- What the first `w` characters hold behind the space is the beginning of the word.
      have hfront : ' ' ∉ front := fun hm => htail (List.mem_append_right spaces hm)
      obtain ⟨back, rfl, rfl⟩ := hword.exists_eq_append hfront hrest'
      rw [List.length_append] at hlen ⊢
      refine ⟨by omega, fun heq => ?_⟩
      obtain rfl : back = [] := List.length_eq_zero_iff.mp (by omega)
      exact hword.head?_after hrest
    · rw [List.length_append]
      exact ⟨by omega, by omega⟩

theorem gap_eq_nil_of_last {cs : List Char} {above below : List Strip} {strip : Strip}
    (h : stripsOf cs [cs] = above ++ strip :: below) : strip.gap = [] := by
  have hmem : strip ∈ stripsOf cs [cs] := by
    rw [h]
    simp
  rw [stripsOf_last, List.mem_singleton] at hmem
  rw [hmem]

/-- The strips of a text are all of it. -/
theorem Wrapped.flatMap_stripsOf {w : Nat} {cs : List Char} {rows : List (List Char)}
    (h : Wrapped w cs rows) : (stripsOf cs rows).flatMap Strip.text = cs := by
  induction h with
  | @last cs hne hle =>
    rw [stripsOf_last]
    simp [Strip.text]
  | @row row gap rest rows hend hgap hhead _ ih =>
    rw [stripsOf_row hgap hhead, List.flatMap_cons, ih, Strip.text, List.append_assoc]

theorem Wrapped.le_of_word {w : Nat} {cs : List Char} {rows : List (List Char)}
    (h : Wrapped w cs rows) {above below : List Strip} {strip : Strip} {word after : List Char}
    (hstrips : stripsOf cs rows = above ++ strip :: below) (hne : strip.gap ≠ [])
    (hbelow : below.flatMap Strip.text = word ++ after) (hword : IsWord strip.gap word after) :
    w ≤ strip.row.length + strip.gap.length + word.length ∧
      (strip.row.length + strip.gap.length + word.length = w → after.head? = some ' ') := by
  induction h generalizing above with
  | last _ hle => exact absurd (gap_eq_nil_of_last hstrips) hne
  | @row row gap rest rows hend hgap hhead hrest ih =>
    rw [stripsOf_row hgap hhead] at hstrips
    cases above with
    | nil =>
      obtain ⟨rfl, rfl⟩ := List.cons.inj hstrips
      rw [hrest.flatMap_stripsOf] at hbelow
      subst hbelow
      exact hend.le_of_word hgap hne hword
    | cons first above =>
      obtain ⟨-, hstrips⟩ := List.cons.inj hstrips
      exact ih hstrips

/-- **How much room a row leaves that ends at a space.**  The next word does not fit in, unless it
would end exactly at the width; then a space follows it, which lies out of sight when the end of the
row is chosen. -/
theorem le_of_next_word {w : Nat} (hw : 0 < w) {line : String} {above below : List Strip}
    {strip : Strip} {word after : List Char}
    (hstrips : strips w hw line = above ++ strip :: below) (hne : strip.gap ≠ [])
    (hbelow : below.flatMap Strip.text = word ++ after) (hword : IsWord strip.gap word after) :
    w ≤ strip.row.length + strip.gap.length + word.length ∧
      (strip.row.length + strip.gap.length + word.length = w → after.head? = some ' ') := by
  by_cases hline : Text.trimEnd line.toList = []
  · -- The one row of a paragraph without text has no spaces behind it.
    have hrows : rows w hw line = [[]] := by
      rw [rows, wrap_of_trimEnd_eq_nil hw hline]
      rfl
    rw [strips, hline, hrows] at hstrips
    exact absurd (gap_eq_nil_of_last hstrips) hne
  · exact (wrapped_rows hw hline).le_of_word hstrips hne hbelow hword

theorem le_of_next_word_brown :
    0 < 10 ∧ strips 10 (by decide) "the quick brown fox" =
      [] ++ ⟨"the quick".toList, [' ']⟩ :: [⟨"brown fox".toList, []⟩] ∧
    IsWord [' '] "brown".toList " fox".toList ∧ 10 ≤ 9 + 1 + 5 := by
  have hstrips : strips 10 (by decide) "the quick brown fox" =
      [] ++ ⟨"the quick".toList, [' ']⟩ :: [⟨"brown fox".toList, []⟩] := by decide +kernel
  have hword : IsWord [' '] "brown".toList " fox".toList := by decide
  exact ⟨by decide, hstrips, hword,
    (le_of_next_word (by decide) hstrips (by decide) (by decide) hword).1⟩

/-- A row that ends although the next word still fits. -/
theorem word_put_off :
    wrap 5 (by decide) "ab cd ef" = ["ab", "cd ef"] ∧
    strips 5 (by decide) "ab cd ef" =
      [⟨"ab".toList, [' ']⟩, ⟨"cd ef".toList, []⟩] ∧
    IsWord [' '] "cd".toList " ef".toList ∧
    ¬5 < "ab".toList.length + [' '].length + "cd".toList.length :=
  ⟨by decide +kernel, by decide +kernel, by decide, by decide⟩

end StoryPlayer.Screen
