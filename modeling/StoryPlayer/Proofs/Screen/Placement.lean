import StoryPlayer.Proofs.Screen.Menu
import StoryPlayer.Proofs.Screen.Rows

/-!
# Where the dialogue stands

A layout is the end of the full one (`fullLayout`): as many of its last rows as there is room for.
What a frame prints is read off its commands, each text with the row that the cursor was moved to
before (`prints`); a terminal of any size has the menu on row 0, the scene on row 1, the status on its
last row, and the dialogue between them from row 3 on.

* `KeepsNewest`: what a layout keeps of the rows, and how wide they are.
* `StaysInside`: what a frame prints, and on which rows.
* `dialogue_in_area`: both hold of every view and every size.
-/

namespace StoryPlayer.Screen

/-! ## The last rows of all -/

theorem columns_pos (width : Nat) : 0 < max width 1 :=
  Nat.lt_of_lt_of_le Nat.one_pos (Nat.le_max_right width 1)

/-- The full layout of a view: its wrapped paragraphs in order, an empty row between neighbours. -/
def fullLayout (v : View) (width : Nat) : List String :=
  [""].intercalate (v.text.map (wrap (max width 1) (columns_pos width)))

theorem allRows_eq_intercalate {w : Nat} (hw : 0 < w) (lines : List String) :
    allRows w hw lines = [""].intercalate (lines.map (wrap w hw)) := by
  fun_induction allRows w hw lines with
  | case1 => rfl
  | case2 line => rw [List.map_singleton, List.intercalate_singleton]
  | case3 line rest hne ih =>
    obtain ⟨next, more, rfl⟩ := List.exists_cons_of_ne_nil hne
    rw [ih]
    simp only [List.map_cons, List.intercalate_cons_cons, List.append_assoc, List.singleton_append]

theorem layout_eq_drop (v : View) (width rows : Nat) :
    layout v width rows =
      (fullLayout v width).drop ((fullLayout v width).length - rows) := by
  rw [layout, fullLayout, allRows_eq_intercalate]

theorem length_layout (v : View) (width rows : Nat) :
    (layout v width rows).length = min rows (fullLayout v width).length := by
  rw [layout_eq_drop, List.length_drop]
  omega

theorem Wrapped.length_le {w : Nat} {cs : List Char} {rows : List (List Char)}
    (h : Wrapped w cs rows) : ∀ row ∈ rows, row.length ≤ w := by
  induction h with
  | last _ hle => exact List.forall_mem_singleton.mpr hle
  | row hend _ _ _ ih => exact List.forall_mem_cons.mpr ⟨hend.length_le, ih⟩

theorem length_le_of_mem_wrap {w : Nat} (hw : 0 < w) {line row : String}
    (h : row ∈ wrap w hw line) : row.length ≤ w := by
  by_cases hline : Text.trimEnd line.toList = []
  · rw [wrap_of_trimEnd_eq_nil hw hline, List.mem_singleton] at h
    rw [h]
    exact Nat.zero_le w
  · rw [← String.length_toList]
    exact (wrapped_rows hw hline).length_le _ (List.mem_map_of_mem h)

theorem length_le_of_mem_fullLayout {v : View} {width : Nat} :
    ∀ row ∈ fullLayout v width, row.length ≤ max width 1 := by
  refine forall_mem_intercalate (List.forall_mem_singleton.mpr (Nat.zero_le _)) ?_
  exact List.forall_mem_map.mpr fun line _ row => length_le_of_mem_wrap (columns_pos width)

/-- Of the full layout a view shows the last rows. -/
structure KeepsNewest (v : View) (width rows : Nat) : Prop where
  suffix : layout v width rows <:+ fullLayout v width
  length : (layout v width rows).length = min rows (fullLayout v width).length
  narrow : ∀ row ∈ layout v width rows, row.length ≤ max width 1
  grows : layout v width rows <:+ layout v width (rows + 1)

theorem keepsNewest (v : View) (width rows : Nat) : KeepsNewest v width rows where
  suffix := by
    rw [layout_eq_drop]
    exact List.drop_suffix _ _
  length := length_layout v width rows
  narrow row hrow := by
    rw [layout_eq_drop] at hrow
    exact length_le_of_mem_fullLayout row (List.mem_of_mem_drop hrow)
  grows := by
    rw [layout_eq_drop, layout_eq_drop]
    exact List.drop_suffix_drop_left _ (by omega)

/-! ## What is printed on which row -/

/-- The texts that commands print, each with the row that the cursor was moved to last; before that
it is on `row`. -/
def prints (row : Nat) : List Ansi → List (Nat × String)
  | [] => []
  | .moveTo _ next :: rest => prints next.toNat rest
  | command :: rest => (command.printed?.map (row, ·)).toList ++ prints row rest

/-- Texts are printed on the row where the cursor is. -/
theorem prints_of_isSome (row : Nat) {commands : List Ansi}
    (h : ∀ c ∈ commands, c.printed?.isSome = true) :
    prints row commands = (commands.filterMap Ansi.printed?).map (row, ·) := by
  induction commands with
  | nil => rfl
  | cons c commands ih =>
    obtain ⟨hc, hcommands⟩ := List.forall_mem_cons.mp h
    obtain ⟨text, htext⟩ := Option.isSome_iff_exists.mp hc
    have hstays : ∀ column next, c = .moveTo column next → False := by
      rintro column next rfl
      cases htext
    rw [prints.eq_3 row c commands hstays, ih hcommands, List.filterMap_cons_some htext, htext]
    rfl

/-- From where the cursor is moved to, it does not matter where it was before. -/
theorem prints_append_moveTo (start : Nat) (front : List Ansi) (column row : UInt16)
    (rest : List Ansi) :
    prints start (front ++ .moveTo column row :: rest) =
      prints start front ++ prints row.toNat rest := by
  fun_induction prints start front with
  | case1 => rfl
  | case2 _ _ next front ih => exact ih
  | case3 start c front hstays ih =>
    rw [List.cons_append, prints.eq_3 start c _ hstays, ih, List.append_assoc]

/-! ### The menu -/

theorem prints_menuBar (start : Nat) (b : KeyBindings) :
    prints start (menuBar b) = ((menuBar b).filterMap Ansi.printed?).map (0, ·) := by
  obtain ⟨texts, hmenu, htexts⟩ := exists_menuBar b
  rw [hmenu]
  exact prints_of_isSome 0 htexts

/-! ### The dialogue -/

/-- The rows of the dialogue that there is room for. -/
def shownRows (v : View) (size : Size) : List String :=
  layout v size.width.toNat (size.height.toNat - 4)

/-- The rows of the dialogue, each with the row of the screen that is its place. -/
def dialogueRows (v : View) (size : Size) : List (Nat × String) :=
  (shownRows v size).zipIdx.map fun (row, y) => (y + 3, row)

theorem lt_height {v : View} {size : Size} {y : Nat} (h : y < (shownRows v size).length) :
    y + 4 < size.height.toNat := by
  rw [shownRows, length_layout] at h
  omega

theorem exists_of_mem_dialogueRows {v : View} {size : Size} {p : Nat × String}
    (h : p ∈ dialogueRows v size) : ∃ y, p.1 = y + 3 ∧ y + 4 < size.height.toNat := by
  obtain ⟨⟨row, y⟩, hrow, rfl⟩ := List.mem_map.mp h
  exact ⟨y, rfl, lt_height (List.mem_zipIdx' hrow).1⟩

/-- For the rows of a screen 16 bits are enough. -/
theorem toNat_toUInt16 {size : Size} {y : Nat} (h : y + 4 < size.height.toNat) :
    y.toUInt16.toNat = y ∧ y.toUInt16.toNat + textOffset.toNat < UInt16.size := by
  have hsize : size.height.toNat < UInt16.size := size.height.toNat_lt
  have hy : y.toUInt16.toNat = y := Nat.mod_eq_of_lt (show y < UInt16.size by omega)
  refine ⟨hy, ?_⟩
  rw [hy, show textOffset.toNat = 3 from rfl]
  omega

theorem prints_dialogue (start : Nat) (v : View) (size : Size) :
    prints start (dialogue v size) = dialogueRows v size := by
  have hrows (rows : List (String × Nat)) :
      prints start (rows.flatMap fun (row, y) => [.moveTo 0 (y.toUInt16 + textOffset), .print row]) =
        rows.map fun (row, y) => ((y.toUInt16 + textOffset).toNat, row) := by
    induction rows generalizing start with
    | nil => rfl
    | cons first rows ih => exact congrArg (_ :: ·) (ih _)
  rw [dialogue, hrows]
  refine List.map_congr_left ?_
  rintro ⟨row, y⟩ hrow
  obtain ⟨hy, hfits⟩ := toNat_toUInt16 (lt_height (List.mem_zipIdx' hrow).1)
  have hplace : (y.toUInt16 + textOffset).toNat = y + 3 := by
    rw [UInt16.toNat_add, Nat.mod_eq_of_lt hfits, hy]
    rfl
  exact congrArg (·, row) hplace

/-! ### Frames -/

theorem toNat_statusRow (size : Size) : (statusRow size).toNat = size.height.toNat - 1 := by
  rw [statusRow]
  split
  · next h => rw [h]; rfl
  · next h =>
    have hne : size.height.toNat ≠ 0 := fun hzero => h (UInt16.toNat_inj.mp hzero)
    exact UInt16.toNat_sub_of_le _ _ (UInt16.le_iff_toNat_le.mpr (Nat.one_le_iff_ne_zero.mpr hne))

/-- All that a frame shows: the menu on row 0, the scene on row 1, the dialogue, and the status on the
last row. -/
def frameRows (v : View) (b : KeyBindings) (status : String) (size : Size) : List (Nat × String) :=
  ((menuBar b).filterMap Ansi.printed?).map (0, ·) ++ (1, sceneLine v) ::
    (dialogueRows v size ++ [(size.height.toNat - 1, " " ++ status ++ " ")])

theorem prints_frame (start : Nat) (v : View) (b : KeyBindings) (status : String) (size : Size) :
    prints start (frame v b status size) = frameRows v b status size := by
  have hframe : frame v b status size = .clear :: (menuBar b ++ .moveTo 0 1 ::
      .styled .bold (sceneLine v) :: (dialogue v size ++ .moveTo 0 (statusRow size) ::
        [.styled .dim (" " ++ status ++ " ")])) := by
    simp [frame]
  have hclear (rest : List Ansi) : prints start (.clear :: rest) = prints start rest := rfl
  have hscene (rest : List Ansi) : prints 1 (.styled .bold (sceneLine v) :: rest) =
    (1, sceneLine v) :: prints 1 rest := rfl
  rw [hframe, hclear, prints_append_moveTo, prints_menuBar, show (1 : UInt16).toNat = 1 from rfl,
    hscene, prints_append_moveTo, prints_dialogue, toNat_statusRow]
  rfl

/-- The dialogue is drawn where it belongs, apart from all else that a frame shows. -/
structure StaysInside (v : View) (b : KeyBindings) (status : String) (size : Size) : Prop where
  placed : ∀ start, prints start (frame v b status size) = frameRows v b status size
  fits : ∀ y < (shownRows v size).length,
    y.toUInt16.toNat = y ∧ y.toUInt16.toNat + textOffset.toNat < UInt16.size
  between : ∀ p ∈ dialogueRows v size, 3 ≤ p.1 ∧ p.1 ≤ size.height.toNat - 2
  apart : ∀ p ∈ dialogueRows v size, p.1 ≠ 0 ∧ p.1 ≠ 1 ∧ p.1 ≠ size.height.toNat - 1
  none : size.height.toNat ≤ 4 → dialogueRows v size = []

theorem staysInside (v : View) (b : KeyBindings) (status : String) (size : Size) :
    StaysInside v b status size where
  placed start := prints_frame start v b status size
  fits y hy := toNat_toUInt16 (lt_height hy)
  between p hp := by
    obtain ⟨y, hy, hlt⟩ := exists_of_mem_dialogueRows hp
    omega
  apart p hp := by
    obtain ⟨y, hy, hlt⟩ := exists_of_mem_dialogueRows hp
    omega
  none hle := by
    refine List.eq_nil_iff_forall_not_mem.mpr fun p hp => ?_
    obtain ⟨y, hy, hlt⟩ := exists_of_mem_dialogueRows hp
    omega

/-- **The dialogue stays inside its area, and the newest text wins.** -/
theorem dialogue_in_area :
    (∀ (v : View) (width rows : Nat), KeepsNewest v width rows) ∧
    ∀ (v : View) (b : KeyBindings) (status : String) (size : Size), StaysInside v b status size :=
  ⟨keepsNewest, staysInside⟩

example : layout ⟨["a", "b", "c"], []⟩ 10 3 = ["b", "", "c"] := by decide +kernel

end StoryPlayer.Screen
