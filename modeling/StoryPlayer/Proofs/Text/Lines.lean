import Mathlib.Data.List.DropRight
import StoryPlayer.Text.Blank
import StoryPlayer.Text.Lines

/-!
# Trimming and lines

What trimming leaves neither begins nor ends with a blank (`IsTrimmed`), and a text that does not
is left alone (`trim_eq_self`).  The lines of a text hold no line feed (`not_mem_of_mem_lines`), and
lines that are written one after another, each with a line feed behind it, are read back
(`lines_flatMap`), up to the carriage returns that `dropReturn` takes.
-/

namespace StoryPlayer.Text

/-! ## Cutting a text at a character -/

theorem not_mem_takeWhile_ne (c : Char) (cs : List Char) : c ∉ cs.takeWhile (· ≠ c) :=
  fun h => by simpa using List.mem_takeWhile_imp h

theorem not_mem_of_dropWhile_ne_eq_nil {c : Char} {cs : List Char}
    (h : cs.dropWhile (· ≠ c) = []) : c ∉ cs :=
  fun hc => by simpa using List.dropWhile_eq_nil_iff.mp h c hc

theorem decide_ne_of_not_mem {c : Char} {cs : List Char} (h : c ∉ cs) :
    ∀ d ∈ cs, decide (d ≠ c) = true :=
  fun d hd => by simpa using ne_of_mem_of_not_mem hd h

theorem takeWhile_ne_append {c : Char} {cs : List Char} (h : c ∉ cs) (rest : List Char) :
    (cs ++ c :: rest).takeWhile (· ≠ c) = cs := by
  rw [List.takeWhile_append_of_pos (decide_ne_of_not_mem h), List.takeWhile_cons_of_neg (by simp),
    List.append_nil]

theorem dropWhile_ne_append {c : Char} {cs : List Char} (h : c ∉ cs) (rest : List Char) :
    (cs ++ c :: rest).dropWhile (· ≠ c) = c :: rest := by
  rw [List.dropWhile_append_of_pos (decide_ne_of_not_mem h), List.dropWhile_cons_of_neg (by simp)]

theorem head?_dropWhile_eq_false {p : Char → Bool} {cs : List Char} {c : Char}
    (h : c ∈ (cs.dropWhile p).head?) : p c = false := by
  have hp := List.head?_dropWhile_not p cs
  rw [Option.mem_def] at h
  rw [h] at hp
  exact hp

/-- A text is cut at the first of some character. -/
theorem eq_append_of_dropWhile_ne {c d : Char} {cs rest : List Char}
    (h : cs.dropWhile (· ≠ c) = d :: rest) : d = c ∧ cs = cs.takeWhile (· ≠ c) ++ c :: rest := by
  have hhead : d ∈ (cs.dropWhile (· ≠ c)).head? := by
    rw [h]
    rfl
  obtain rfl : d = c := by simpa using head?_dropWhile_eq_false hhead
  exact ⟨rfl, by rw [← h, List.takeWhile_append_dropWhile]⟩

/-- The first place of a character is one place only. -/
theorem append_cons_inj {c : Char} {front rest front' rest' : List Char} (hfront : c ∉ front)
    (hfront' : c ∉ front') (h : front ++ c :: rest = front' ++ c :: rest') :
    front = front' ∧ rest = rest' := by
  have hsame := congrArg (List.takeWhile (· ≠ c)) h
  rw [takeWhile_ne_append hfront, takeWhile_ne_append hfront'] at hsame
  subst hsame
  exact ⟨rfl, (List.cons.inj (List.append_cancel_left h)).2⟩

/-! ## Lists that are split -/

/-- What does not split a list goes to its last part. -/
theorem exists_splitOnP_concat {α : Type} {p : α → Bool} (xs : List α) {x : α} (hx : p x = false) :
    ∃ front last, xs.splitOnP p = front ++ [last] ∧
      (xs ++ [x]).splitOnP p = front ++ [last ++ [x]] := by
  induction xs with
  | nil =>
    refine ⟨[], [], rfl, ?_⟩
    rw [List.nil_append, List.splitOnP_cons_eq_if_modifyHead, if_neg (by simp [hx])]
    rfl
  | cons y ys ih =>
    obtain ⟨front, last, hys, hall⟩ := ih
    rw [List.cons_append, List.splitOnP_cons_eq_if_modifyHead,
      List.splitOnP_cons_eq_if_modifyHead, hys, hall]
    split
    · exact ⟨[] :: front, last, rfl, rfl⟩
    · cases front with
      | nil => exact ⟨[], y :: last, rfl, rfl⟩
      | cons first rest => exact ⟨(y :: first) :: rest, last, rfl, rfl⟩

theorem splitOn_append_cons (c : Char) (cs rest : List Char) :
    (cs ++ c :: rest).splitOn c = cs.splitOn c ++ rest.splitOn c := by
  simp only [List.splitOn_eq_splitOnP]
  exact List.splitOnP_append_cons cs rest (beq_self_eq_true c)

theorem splitOn_of_not_mem {c : Char} {cs : List Char} (h : c ∉ cs) : cs.splitOn c = [cs] := by
  rw [List.splitOn_eq_splitOnP]
  exact List.splitOnP_eq_singleton fun d hd => by simpa using ne_of_mem_of_not_mem hd h

theorem length_splitOn (c : Char) (cs : List Char) :
    (cs.splitOn c).length = cs.count c + 1 := by
  induction cs with
  | nil => rfl
  | cons d cs ih =>
    rw [List.splitOn_cons_eq_if_modifyHead, List.count_cons]
    split
    · rw [List.length_cons, ih]
    · rw [List.length_modifyHead, ih]

/-! ## Blanks at the ends -/

/-- Neither end of a text is blank. -/
def IsTrimmed (cs : List Char) : Prop :=
  (∀ c ∈ cs.head?, isBlank c = false) ∧ ∀ c ∈ cs.getLast?, isBlank c = false

instance (cs : List Char) : Decidable (IsTrimmed cs) := inferInstanceAs (Decidable (_ ∧ _))

theorem isTrimmed_cons {c : Char} {cs : List Char} (hc : isBlank c = false)
    (h : ∀ d ∈ cs.getLast?, isBlank d = false) : IsTrimmed (c :: cs) := by
  refine ⟨fun d hd => ?_, fun d hd => ?_⟩
  · cases hd
    exact hc
  · rw [List.getLast?_cons, Option.mem_some_iff] at hd
    cases hl : cs.getLast? with
    | none => rwa [← hd, hl]
    | some e =>
      rw [← hd, hl]
      exact h e hl

theorem prefix_trimEnd (cs : List Char) : trimEnd cs <+: cs := List.rdropWhile_prefix isBlank cs

theorem isBlank_of_mem_getLast?_trimEnd {cs : List Char} {c : Char}
    (h : c ∈ (trimEnd cs).getLast?) : isBlank c = false := by
  rw [trimEnd, List.getLast?_reverse] at h
  exact head?_dropWhile_eq_false h

theorem trim_subset (cs : List Char) : trim cs ⊆ cs :=
  fun _ hc => List.dropWhile_subset isBlank ((prefix_trimEnd (trimStart cs)).subset hc)

theorem isTrimmed_trim (cs : List Char) : IsTrimmed (trim cs) := by
  refine ⟨fun c hc => ?_, fun c hc => isBlank_of_mem_getLast?_trimEnd hc⟩
  have hs : c ∈ (trimStart cs).head? := by
    obtain ⟨blanks, he⟩ := prefix_trimEnd (trimStart cs)
    have ht : (trimEnd (trimStart cs)).head? = some c := hc
    rw [← he, List.head?_append, ht]
    exact rfl
  exact head?_dropWhile_eq_false hs

theorem trimStart_eq_self {cs : List Char} (h : ∀ c ∈ cs.head?, isBlank c = false) :
    trimStart cs = cs := by
  cases cs with
  | nil => rfl
  | cons c rest => exact List.dropWhile_cons_of_neg (by simp [h c rfl])

theorem trimEnd_eq_self {cs : List Char} (h : ∀ c ∈ cs.getLast?, isBlank c = false) :
    trimEnd cs = cs := by
  have hr : trimStart cs.reverse = cs.reverse :=
    trimStart_eq_self fun c hc => h c (by rwa [List.head?_reverse] at hc)
  change (trimStart cs.reverse).reverse = cs
  rw [hr, List.reverse_reverse]

theorem trim_eq_self {cs : List Char} (h : IsTrimmed cs) : trim cs = cs := by
  rw [trim, trimStart_eq_self h.1, trimEnd_eq_self h.2]

theorem trimEnd_concat_of_isBlank {c : Char} (hc : isBlank c = true) (cs : List Char) :
    trimEnd (cs ++ [c]) = trimEnd cs := List.rdropWhile_concat_pos isBlank cs c hc

theorem trimEnd_cons (c : Char) (cs : List Char) :
    trimEnd (c :: cs) = if trimEnd cs = [] ∧ isBlank c = true then [] else c :: trimEnd cs := by
  have hcons : trimEnd (c :: cs) = ((cs.reverse ++ [c]).dropWhile isBlank).reverse := by
    rw [trimEnd, List.reverse_cons]
  rw [hcons, List.dropWhile_append, trimEnd]
  by_cases he : cs.reverse.dropWhile isBlank = []
  · cases hc : isBlank c with
    | true => simp [he, hc]
    | false => simp [he, hc]
  · simp [he]

/-- The blanks at the end can go before those at the start. -/
theorem trim_eq (cs : List Char) : trim cs = trimStart (trimEnd cs) := by
  induction cs with
  | nil => rfl
  | cons c cs ih =>
    rw [trim, trimEnd_cons, trimStart]
    cases hc : isBlank c with
    | true =>
      rw [List.dropWhile_cons_of_pos hc, ← trimStart, ← trim, ih]
      by_cases he : trimEnd cs = []
      · rw [if_pos ⟨he, rfl⟩, he]
      · rw [if_neg fun h => he h.1, trimStart, trimStart, List.dropWhile_cons_of_pos hc]
    | false =>
      rw [List.dropWhile_cons_of_neg (by simp [hc]), trimEnd_cons, if_neg (by simp [hc]),
        if_neg (by simp), trimStart, List.dropWhile_cons_of_neg (by simp [hc])]

/-- The blanks at the end can go first. -/
theorem trim_concat_of_isBlank {c : Char} (hc : isBlank c = true) (cs : List Char) :
    trim (cs ++ [c]) = trim cs := by
  rw [trim, trim, trimStart, trimStart, List.dropWhile_append]
  split
  · next he =>
    rw [List.isEmpty_iff] at he
    rw [he, List.dropWhile_cons_of_pos hc]
    rfl
  · exact trimEnd_concat_of_isBlank hc _

/-- A carriage return that ends a line is trimmed anyway. -/
theorem trim_dropReturn (line : List Char) : trim (dropReturn line) = trim line := by
  rw [dropReturn]
  split
  · next h =>
    obtain ⟨front, rfl⟩ := List.getLast?_eq_some_iff.mp h
    rw [List.dropLast_concat, trim_concat_of_isBlank (by decide)]
  · rfl

/-! ## Lines -/

theorem lines_nil : lines [] = [] := by rw [lines]; rfl

theorem lines_append {line : List Char} (h : '\n' ∉ line) (rest : List Char) :
    lines (line ++ '\n' :: rest) = dropReturn line :: lines rest := by
  have hd := dropWhile_ne_append h rest
  rw [lines, if_neg (by simp)]
  split
  · next he => rw [hd] at he; cases he
  · next he =>
    rw [hd] at he
    cases he
    rw [takeWhile_ne_append h]

theorem lines_of_not_mem {cs : List Char} (h : '\n' ∉ cs) (hne : cs ≠ []) : lines cs = [cs] := by
  have hall := decide_ne_of_not_mem h
  have hd : cs.dropWhile (· ≠ '\n') = [] := List.dropWhile_eq_nil_iff.mpr hall
  rw [lines, if_neg (by simpa using hne)]
  split
  · rw [List.takeWhile_eq_self_iff.mpr hall]
  · next he => rw [hd] at he; cases he

theorem dropReturn_subset (line : List Char) : dropReturn line ⊆ line := by
  rw [dropReturn]
  split
  · exact List.dropLast_subset line
  · exact List.Subset.refl line

theorem not_mem_of_mem_lines {cs line : List Char} (h : line ∈ lines cs) : '\n' ∉ line := by
  induction hn : cs.length using Nat.strong_induction_on generalizing cs with
  | _ n ih =>
    rw [lines] at h
    split at h
    · cases h
    · split at h
      · rw [List.mem_singleton] at h
        exact h ▸ not_mem_takeWhile_ne '\n' cs
      · next he =>
        rcases List.mem_cons.mp h with rfl | hmem
        · exact fun hm => not_mem_takeWhile_ne '\n' cs (dropReturn_subset _ hm)
        · have hlen := length_dropWhile_le (· ≠ '\n') cs
          rw [he, List.length_cons] at hlen
          exact ih _ (by omega) hmem rfl

/-- **Lines that are written one after another are read back.** -/
theorem lines_flatMap {ls : List (List Char)} (h : ∀ line ∈ ls, '\n' ∉ line) :
    lines (ls.flatMap (· ++ ['\n'])) = ls.map dropReturn := by
  induction ls with
  | nil => exact lines_nil
  | cons line rest ih =>
    rw [List.flatMap_cons, List.append_assoc, List.singleton_append,
      lines_append (h line List.mem_cons_self), List.map_cons,
      ih fun l hl => h l (List.mem_cons_of_mem line hl)]

end StoryPlayer.Text
