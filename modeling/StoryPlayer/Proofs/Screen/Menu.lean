import StoryPlayer.Proofs.Text.Lines
import StoryPlayer.Screen.Frame

/-!
# Segments of a menu item

An item is taken apart from left to right (`Segmented`).  As long as a bracket of what is left is
closed, the part from the first bracket up to the first one that closes it is bold, and what stands
before it is dim.  If no bracket is closed any more, what is left is dim, and an unclosed bracket
begins a segment of its own.

* `ClosedParts`: the parts of a text that are bracketed, found without taking it apart.
* `Styling`: what the segments of a text are.
* `menuItem_styling`: these are the segments that are printed for an item.
* `exists_menuBar`: all items are printed on the row where the menu begins.
-/

namespace StoryPlayer.Screen

/-- A part of an item that is printed with one weight. -/
structure Segment where
  weight : Weight
  text : List Char

namespace Segment

/-- The command that prints a segment. -/
def command (s : Segment) : Ansi := .styled s.weight (String.ofList s.text)

/-- What a terminal receives for a segment: the weight, the text and the reset. -/
def sequence (s : Segment) : String :=
  control ++ s.weight.code ++ String.ofList s.text ++ control ++ "0m"

end Segment

/-! ## Taking an item apart -/

/-- Dim text, if there is any. -/
def dimmed (cs : List Char) : List Segment := if cs = [] then [] else [⟨.dim, cs⟩]

/-- A text and its segments, one constructor for each way the next bracket can be. -/
inductive Segmented : List Char → List Segment → Prop
  /-- No bracket is opened any more. -/
  | plain {cs : List Char} : '[' ∉ cs → Segmented cs (dimmed cs)
  /-- A bracket is opened and never closed. -/
  | unclosed {front rest : List Char} : '[' ∉ front → ']' ∉ rest →
      Segmented (front ++ '[' :: rest) (dimmed front ++ [⟨.dim, '[' :: rest⟩])
  /-- A bracket is opened and closed. -/
  | closed {front inner after : List Char} {segments : List Segment} : '[' ∉ front → ']' ∉ inner →
      Segmented after segments →
      Segmented (front ++ '[' :: (inner ++ ']' :: after))
        (dimmed front ++ ⟨.bold, '[' :: (inner ++ [']'])⟩ :: segments)

theorem segment_dim (cs : List Char) : segment .dim cs = (dimmed cs).map Segment.command := by
  cases cs with
  | nil => rfl
  | cons c cs => rfl

/-- Every item is taken apart, and so it is printed. -/
theorem exists_segmented (item : List Char) :
    ∃ segments, Segmented item segments ∧ menuSegments item = segments.map Segment.command := by
  fun_induction menuSegments item with
  | case1 item hitem =>
    exact ⟨dimmed item, .plain (Text.not_mem_of_dropWhile_ne_eq_nil hitem), segment_dim item⟩
  | case2 item c rest hitem hrest =>
    obtain ⟨rfl, hcut⟩ := Text.eq_append_of_dropWhile_ne hitem
    have hsegmented := Segmented.unclosed (Text.not_mem_takeWhile_ne '[' item)
      (Text.not_mem_of_dropWhile_ne_eq_nil hrest)
    rw [← hcut] at hsegmented
    refine ⟨_, hsegmented, ?_⟩
    rw [segment_dim, segment_dim, ← List.map_append]
    rfl
  | case3 item c rest hitem d after hrest ih =>
    obtain ⟨segments, hsegments, hmap⟩ := ih
    obtain ⟨rfl, hcut⟩ := Text.eq_append_of_dropWhile_ne hitem
    obtain ⟨rfl, hcut'⟩ := Text.eq_append_of_dropWhile_ne hrest
    have hsegmented := Segmented.closed (Text.not_mem_takeWhile_ne '[' item)
      (Text.not_mem_takeWhile_ne ']' rest) hsegments
    rw [← hcut', ← hcut] at hsegmented
    refine ⟨_, hsegmented, ?_⟩
    rw [segment_dim, hmap, List.map_append, List.append_assoc]
    rfl

/-! ## Neighbours -/

/-- A segment and all that stand behind it. -/
inductive Neighbours : Segment → List Segment → Prop
  | bold {text : List Char} {below : List Segment} : Neighbours ⟨.bold, text⟩ below
  | last {text : List Char} : '[' ∉ text → Neighbours ⟨.dim, text⟩ []
  | beforeBold {text part : List Char} {below : List Segment} : '[' ∉ text →
      Neighbours ⟨.dim, text⟩ (⟨.bold, part⟩ :: below)
  | beforeUnclosed {text rest : List Char} : '[' ∉ text → ']' ∉ rest →
      Neighbours ⟨.dim, text⟩ [⟨.dim, '[' :: rest⟩]
  | unclosed {rest : List Char} : ']' ∉ rest → Neighbours ⟨.dim, '[' :: rest⟩ []

theorem suffix_dimmed_append {front : List Char} {s : Segment} {below rest : List Segment}
    (h : s :: below <:+ dimmed front ++ rest) :
    (s = ⟨.dim, front⟩ ∧ below = rest) ∨ s :: below <:+ rest := by
  rw [dimmed] at h
  split at h
  · exact .inr h
  · exact (List.suffix_cons_iff.mp h).imp_left List.cons.inj

theorem Segmented.neighbours {cs : List Char} {segments : List Segment}
    (h : Segmented cs segments) {s : Segment} {below : List Segment}
    (hs : s :: below <:+ segments) : Neighbours s below := by
  -- A segment is the dim text before a bracket, or the bracket, or it stands behind the bracket.
  induction h with
  | plain hcs =>
    rw [← List.append_nil (dimmed _)] at hs
    rcases suffix_dimmed_append hs with ⟨rfl, rfl⟩ | hs
    · exact .last hcs
    · cases List.suffix_nil.mp hs
  | unclosed hfront hrest =>
    rcases suffix_dimmed_append hs with ⟨rfl, rfl⟩ | hs
    · exact .beforeUnclosed hfront hrest
    · rcases List.suffix_cons_iff.mp hs with hs | hs
      · obtain ⟨rfl, rfl⟩ := List.cons.inj hs
        exact .unclosed hrest
      · cases List.suffix_nil.mp hs
  | closed hfront _ _ ih =>
    rcases suffix_dimmed_append hs with ⟨rfl, rfl⟩ | hs
    · exact .beforeBold hfront
    · rcases List.suffix_cons_iff.mp hs with hs | hs
      · obtain ⟨rfl, -⟩ := List.cons.inj hs
        exact .bold
      · exact ih hs

/-! ## Bracketed parts -/

/-- Behind `before` stands a bracket that is closed somewhere. -/
def OpensBehind (cs before : List Char) : Prop := ∃ rest, cs = before ++ '[' :: rest ∧ ']' ∈ rest

/-- The first bracket of a text that is closed somewhere stands behind `before`, and up to the first
bracket that closes it stands `inner`. -/
structure FirstClosed (cs before inner after : List Char) : Prop where
  text : cs = before ++ '[' :: (inner ++ ']' :: after)
  first : ∀ earlier, OpensBehind cs earlier → before.length ≤ earlier.length
  inner_open : ']' ∉ inner

/-- The parts of a text that are bracketed, one after another, each the first of what is left. -/
inductive ClosedParts : List Char → List (List Char) → Prop
  | none {cs : List Char} : (∀ before, ¬OpensBehind cs before) → ClosedParts cs []
  | next {cs before inner after : List Char} {parts : List (List Char)} :
      FirstClosed cs before inner after → ClosedParts after parts →
      ClosedParts cs (('[' :: (inner ++ [']'])) :: parts)

/-- A character that does not occur at the front of a text occurs behind it. -/
theorem exists_behind_front {c : Char} {front rest before after : List Char} (hfront : c ∉ front)
    (h : front ++ rest = before ++ c :: after) :
    ∃ between, before = front ++ between ∧ rest = between ++ c :: after := by
  rcases List.append_eq_append_iff.mp h with ⟨between, hbefore, hrest⟩ | ⟨more, hmore, hafter⟩
  · exact ⟨between, hbefore, hrest⟩
  · cases more with
    | nil => exact ⟨[], by simpa using hmore.symm, hafter.symm⟩
    | cons d more =>
      obtain ⟨rfl, -⟩ := List.cons.inj hafter
      exact absurd (by simp [hmore]) hfront

namespace FirstClosed

variable {cs before inner after : List Char}

theorem opensBehind (h : FirstClosed cs before inner after) : OpensBehind cs before :=
  ⟨inner ++ ']' :: after, h.text, by simp⟩

theorem not_mem_before (h : FirstClosed cs before inner after) : '[' ∉ before := by
  intro hmem
  obtain ⟨earlier, more, rfl⟩ := List.append_of_mem hmem
  have hle := h.first earlier ⟨more ++ '[' :: (inner ++ ']' :: after), by simp [h.text], by simp⟩
  rw [List.length_append, List.length_cons] at hle
  omega

theorem of_not_mem (hbefore : '[' ∉ before) (hinner : ']' ∉ inner) :
    FirstClosed (before ++ '[' :: (inner ++ ']' :: after)) before inner after := by
  refine ⟨rfl, ?_, hinner⟩
  rintro earlier ⟨rest, htext, -⟩
  obtain ⟨between, rfl, -⟩ := exists_behind_front hbefore htext
  rw [List.length_append]
  exact Nat.le_add_right _ _

theorem unique {before' inner' after' : List Char} (h : FirstClosed cs before inner after)
    (h' : FirstClosed cs before' inner' after') : inner = inner' ∧ after = after' := by
  obtain ⟨-, hrest⟩ :=
    Text.append_cons_inj h.not_mem_before h'.not_mem_before (h.text.symm.trans h'.text)
  exact Text.append_cons_inj h.inner_open h'.inner_open hrest

end FirstClosed

theorem ClosedParts.unique {cs : List Char} {parts parts' : List (List Char)}
    (h : ClosedParts cs parts) (h' : ClosedParts cs parts') : parts = parts' := by
  induction h generalizing parts' with
  | none hnone =>
    cases h' with
    | none _ => rfl
    | next hfirst _ => exact absurd hfirst.opensBehind (hnone _)
  | next hfirst _ ih =>
    cases h' with
    | none hnone => exact absurd hfirst.opensBehind (hnone _)
    | next hfirst' hparts =>
      obtain ⟨rfl, rfl⟩ := hfirst.unique hfirst'
      rw [ih hparts]

/-- Of a bracket that is never closed, and of those behind it, none is closed. -/
theorem not_opensBehind {front rest : List Char} (hfront : '[' ∉ front) (hrest : ']' ∉ rest)
    (before : List Char) : ¬OpensBehind (front ++ '[' :: rest) before := by
  rintro ⟨after, htext, hclose⟩
  obtain ⟨between, -, hbehind⟩ := exists_behind_front hfront htext
  have hmem : ']' ∈ '[' :: rest := by simp [hbehind, hclose]
  exact hrest (by simpa using hmem)

/-! ## What is printed -/

/-- The texts of the bold segments. -/
def boldTexts (segments : List Segment) : List (List Char) :=
  (segments.filter (·.weight = .bold)).map Segment.text

theorem boldTexts_dimmed_append (front : List Char) (rest : List Segment) :
    boldTexts (dimmed front ++ rest) = boldTexts rest := by
  rw [dimmed]
  split
  · rfl
  · rfl

theorem flatMap_text_dimmed (front : List Char) : (dimmed front).flatMap Segment.text = front := by
  rw [dimmed]
  split
  · next h => rw [h]; rfl
  · exact List.flatMap_singleton _ _

theorem text_ne_nil_of_mem_dimmed {front : List Char} {s : Segment} (h : s ∈ dimmed front) :
    s.text ≠ [] := by
  rw [dimmed] at h
  split at h
  · cases h
  · next hne =>
    obtain rfl := List.mem_singleton.mp h
    exact hne

namespace Segmented

variable {cs : List Char} {segments : List Segment}

theorem flatMap_text (h : Segmented cs segments) : segments.flatMap Segment.text = cs := by
  induction h with
  | plain _ => exact flatMap_text_dimmed _
  | unclosed _ _ =>
    rw [List.flatMap_append, flatMap_text_dimmed, List.flatMap_singleton]
  | closed _ _ _ ih =>
    rw [List.flatMap_append, flatMap_text_dimmed, List.flatMap_cons, ih]
    simp

theorem text_ne_nil (h : Segmented cs segments) : ∀ s ∈ segments, s.text ≠ [] := by
  induction h with
  | plain _ => exact fun s => text_ne_nil_of_mem_dimmed
  | unclosed _ _ =>
    refine List.forall_mem_append.mpr ⟨fun s => text_ne_nil_of_mem_dimmed, ?_⟩
    exact List.forall_mem_singleton.mpr (List.cons_ne_nil _ _)
  | closed _ _ _ ih =>
    refine List.forall_mem_append.mpr ⟨fun s => text_ne_nil_of_mem_dimmed, ?_⟩
    exact List.forall_mem_cons.mpr ⟨List.cons_ne_nil _ _, ih⟩

theorem closedParts (h : Segmented cs segments) : ClosedParts cs (boldTexts segments) := by
  induction h with
  | @plain cs hcs =>
    rw [← List.append_nil (dimmed cs), boldTexts_dimmed_append]
    exact .none fun before ⟨rest, htext, _⟩ => hcs (by simp [htext])
  | unclosed hfront hrest =>
    rw [boldTexts_dimmed_append]
    exact .none (not_opensBehind hfront hrest)
  | closed hfront hinner _ ih =>
    rw [boldTexts_dimmed_append]
    exact .next (.of_not_mem hfront hinner) ih

end Segmented

/-- A bracket that is never closed, and all that stands behind it. -/
def IsUnclosed (cs : List Char) : Prop := ∃ rest, cs = '[' :: rest ∧ ']' ∉ rest

/-- The segments of a text: together they are the text, and just its bracketed parts are bold.  Two
dim segments are next to each other only if the second is the last and an unclosed bracket begins it;
and an unclosed bracket always begins such a segment. -/
structure Styling (cs : List Char) (segments : List Segment) : Prop where
  flatMap_text : segments.flatMap Segment.text = cs
  text_ne_nil : ∀ s ∈ segments, s.text ≠ []
  bold : ∀ parts, ClosedParts cs parts ↔ parts = boldTexts segments
  apart : ∀ first second below, first :: second :: below <:+ segments → first.weight = .dim →
    second.weight = .dim → below = [] ∧ IsUnclosed second.text
  unclosed : ∀ s below, s :: below <:+ segments → s.weight = .dim → '[' ∈ s.text →
    below = [] ∧ IsUnclosed s.text

theorem Segmented.styling {cs : List Char} {segments : List Segment}
    (h : Segmented cs segments) : Styling cs segments where
  flatMap_text := h.flatMap_text
  text_ne_nil := h.text_ne_nil
  bold parts := ⟨fun hparts => hparts.unique h.closedParts, fun hparts => hparts ▸ h.closedParts⟩
  apart first second below hs hfirst hsecond := by
    cases h.neighbours hs with
    | bold => cases hfirst
    | beforeBold _ => cases hsecond
    | beforeUnclosed _ hrest => exact ⟨rfl, _, rfl, hrest⟩
  unclosed s below hs hdim hopen := by
    cases h.neighbours hs with
    | bold => cases hdim
    | last htext => exact absurd hopen htext
    | beforeBold htext => exact absurd hopen htext
    | beforeUnclosed htext _ => exact absurd hopen htext
    | unclosed hrest => exact ⟨rfl, _, rfl, hrest⟩

/-- **Styling keeps the text and makes just the bracketed parts bold.** -/
theorem menuItem_styling (item : String) :
    ∃ segments : List Segment, menuItem item = segments.map Segment.command ∧
      Ansi.render (menuItem item) = String.join (segments.map Segment.sequence) ∧
      Styling item.toList segments := by
  obtain ⟨segments, hsegments, hprinted⟩ := exists_segmented item.toList
  refine ⟨segments, hprinted, ?_, hsegments.styling⟩
  rw [menuItem, hprinted, Ansi.render, List.map_map]
  rfl

example : menuItem "oops [F5" = [.styled .dim "oops ", .styled .dim "[F5"] := by decide +kernel

/-! ## The menu as a whole -/

/-- The text that a command prints. -/
def Ansi.printed? : Ansi → Option String
  | .print text => some text
  | .styled _ text => some text
  | _ => none

theorem isSome_printed?_of_mem_menuItem {item : String} {c : Ansi} (h : c ∈ menuItem item) :
    c.printed?.isSome = true := by
  obtain ⟨segments, -, hitem⟩ := exists_segmented item.toList
  rw [menuItem, hitem] at h
  obtain ⟨s, -, rfl⟩ := List.mem_map.mp h
  rfl

theorem forall_mem_intercalate {α : Type} {p : α → Prop} {separator : List α}
    {parts : List (List α)} (hseparator : ∀ x ∈ separator, p x)
    (hparts : ∀ part ∈ parts, ∀ x ∈ part, p x) : ∀ x ∈ separator.intercalate parts, p x := by
  induction parts with
  | nil => exact nofun
  | cons part parts ih =>
    obtain ⟨hpart, hparts⟩ := List.forall_mem_cons.mp hparts
    cases parts with
    | nil => rwa [List.intercalate_singleton]
    | cons next parts =>
      rw [List.intercalate_cons_cons]
      exact List.forall_mem_append.mpr ⟨List.forall_mem_append.mpr ⟨hpart, hseparator⟩, ih hparts⟩

/-- Behind its first command the menu moves the cursor nowhere: it prints texts. -/
theorem exists_menuBar (b : KeyBindings) :
    ∃ texts, menuBar b = .moveTo 0 0 :: texts ∧ ∀ c ∈ texts, c.printed?.isSome = true := by
  refine ⟨.print " " :: [Ansi.print "  "].intercalate ((menuItems b).map menuItem), rfl, ?_⟩
  refine List.forall_mem_cons.mpr ⟨rfl, forall_mem_intercalate ?_ ?_⟩
  · exact List.forall_mem_singleton.mpr rfl
  · exact List.forall_mem_map.mpr fun item _ c => isSome_printed?_of_mem_menuItem

end StoryPlayer.Screen
