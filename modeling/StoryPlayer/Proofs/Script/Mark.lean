import StoryPlayer.Proofs.Script.Concatenation
import StoryPlayer.Proofs.Script.Phrase
import StoryPlayer.Text.Utf8

/-!
# A byte order mark in front of a script

A byte order mark is neither blank nor the beginning of a label, a tag or a comment, so the line that
it stands in front of is a text line (`lineTokens_mark`).

How far apart two scripts are is measured by the characters that their tokens hold in texts
(`textSize`).  Characters in front of a text line go into the first text of its phrase and decide
nothing else (`Phrase.tokens_prepend`), so the mark, and the blanks behind it that are not trimmed any
more, come on top of what the line holds without it.  Hence a script never has the same tokens with
and without a mark; it is read as the same only if it has the same fault (`parse_mark_eq_iff`).
-/

namespace StoryPlayer.Script

open Text (isBlank trim trimEnd trimStart)

/-! ## Text in a line -/

/-- How many characters some tokens hold in texts. -/
def textSize : List Token → Nat
  | [] => 0
  | .text s :: ts => s.toList.length + textSize ts
  | .label _ :: ts => textSize ts
  | .tag _ :: ts => textSize ts

theorem textSize_append (ts us : List Token) : textSize (ts ++ us) = textSize ts + textSize us := by
  induction ts with
  | nil => exact (Nat.zero_add _).symm
  | cons t ts ih =>
    cases t with
    | text s => rw [List.cons_append, textSize, textSize, ih, Nat.add_assoc]
    | label l => exact ih
    | tag t => exact ih

theorem textSize_textTokens (text : List Char) : textSize (textTokens text) = text.length := by
  cases text with
  | nil => rfl
  | cons c text => simp [textTokens, textSize]

namespace Phrase

/-- A phrase with more characters in its first text. -/
def prepend (front : List Char) : Phrase → Phrase
  | ⟨[], text, f?⟩ => ⟨[], front ++ text, f?⟩
  | ⟨i :: is, text, f?⟩ => ⟨{ i with text := front ++ i.text } :: is, text, f?⟩

theorem final?_prepend (front : List Char) (p : Phrase) : (p.prepend front).final? = p.final? := by
  obtain ⟨_ | _, text, f?⟩ := p
  · rfl
  · rfl

theorem spelling_prepend (front : List Char) (p : Phrase) :
    (p.prepend front).spelling = escape front ++ p.spelling := by
  obtain ⟨_ | ⟨i, is⟩, text, f?⟩ := p
  · simp [prepend, spelling, escape]
  · simp [prepend, spelling, escape, Inline.spelling]

/-- The characters come before those of the first text, and nothing else changes. -/
theorem tokens_prepend {p : Phrase} {ts : List Token} (h : p.tokens = .ok ts) (front : List Char) :
    ∃ text more, ts = textTokens text ++ more ∧
      (p.prepend front).tokens = .ok (textTokens (front ++ text) ++ more) := by
  obtain ⟨before, last, hbefore, hlast, rfl⟩ := tokens_eq_ok_iff.mp h
  obtain ⟨_ | ⟨i, is⟩, text, f?⟩ := p
  · cases hbefore
    exact ⟨text, last, rfl, tokens_eq_ok_iff.mpr ⟨[], last, rfl, hlast, rfl⟩⟩
  · obtain ⟨tag, others, htag, hothers, rfl⟩ := Inline.mapM_tokens_cons_eq_ok_iff.mp hbefore
    refine ⟨i.text, .tag tag :: (others.flatten ++ (textTokens text ++ last)), by simp, ?_⟩
    have hlonger : ({ i with text := front ++ i.text } :: is).mapM Inline.tokens =
        .ok ((textTokens (front ++ i.text) ++ [.tag tag]) :: others) :=
      Inline.mapM_tokens_cons_eq_ok_iff.mpr ⟨tag, others, htag, hothers, rfl⟩
    exact tokens_eq_ok_iff.mpr ⟨_, last, hlonger, hlast, by simp [prepend]⟩

end Phrase

theorem isDoubled_of_isBlank {c : Char} (h : isBlank c = true) : isDoubled c = false := by
  rw [Bool.eq_false_iff]
  intro hc
  simp only [isDoubled, Bool.or_eq_true, decide_eq_true_eq] at hc
  rcases hc with (rfl | rfl) | rfl
  · exact absurd h (by decide)
  · exact absurd h (by decide)
  · exact absurd h (by decide)

/-- Characters that are not doubled, in front of a text line. -/
theorem exists_textLine_of_append {front line : List Char} {ts : List Token}
    (hfront : ∀ c ∈ front, isDoubled c = false) (h : textLine (front ++ line) = .ok ts) :
    ∃ us, textLine line = .ok us ∧ textSize ts = textSize us + front.length := by
  have hplain : escape front = front := by
    rw [escape, List.flatMap_congr fun c hc => if_neg (by simp [hfront c hc]),
      List.flatMap_singleton']
  obtain ⟨p, rest, hline, ⟨us, hus⟩, hrest⟩ : TakenApart line := takenApart [] line
  obtain ⟨text, more, rfl, hprepend⟩ := p.tokens_prepend hus front
  rw [hline, ← List.append_assoc, ← hplain, ← p.spelling_prepend] at h
  rcases hrest with rfl | ⟨hfinal, fault, hrest⟩
  · rw [List.append_nil] at h hline
    rw [textLine_of_phrase hprepend] at h
    cases h
    refine ⟨_, hline ▸ textLine_of_phrase hus, ?_⟩
    simp only [textSize_append, textSize_textTokens, List.length_append]
    omega
  · rw [textLine_of_offends ((p.final?_prepend front).trans hfinal) hprepend hrest] at h
    cases h

/-- Labels and tags on lines of their own have no text. -/
theorem textSize_lineTokens {line : List Char} {ts : List Token} (h : lineTokens line = .ok ts) :
    textSize ts = 0 ∨ textLine (trim line) = .ok ts := by
  rw [lineTokens] at h
  split at h
  · generalize trim line = cs at h
    rw [significantTokens.eq_def] at h
    split at h
    · obtain ⟨l, -, h⟩ := bind_eq_ok_iff.mp h
      cases h
      exact .inl rfl
    · exact .inr h
    · obtain ⟨t, -, h⟩ := bind_eq_ok_iff.mp h
      cases h
      exact .inl rfl
    · exact .inr h
  · cases h
    exact .inl rfl

/-! ## A mark in front -/

/-- With a byte order mark at its start, a line is a text line. -/
theorem lineTokens_mark (line : List Char) :
    lineTokens (byteOrderMark :: line) = textLine (byteOrderMark :: trimEnd line) := by
  have hblank : isBlank byteOrderMark = false := by decide
  have htrim : trim (byteOrderMark :: line) = byteOrderMark :: trimEnd line := by
    rw [Text.trim_eq, Text.trimEnd_cons, if_neg (by simp [hblank]), trimStart,
      List.dropWhile_cons_of_neg (by simp [hblank])]
  rw [lineTokens, htrim, if_pos (by simp [isSignificant, byteOrderMark])]
  rfl

/-- With a byte order mark at its start, a line has more text. -/
theorem textSize_lt_of_mark {line : List Char} {ts us : List Token}
    (hts : lineTokens (byteOrderMark :: line) = .ok ts) (hus : lineTokens line = .ok us) :
    textSize us < textSize ts := by
  -- The blanks at the start of the line are part of the text behind the mark.
  have hsplit : byteOrderMark :: trimEnd line =
      (byteOrderMark :: (trimEnd line).takeWhile isBlank) ++ trim line := by
    rw [Text.trim_eq, trimStart, List.cons_append, List.takeWhile_append_dropWhile]
  have hfront : ∀ c ∈ byteOrderMark :: (trimEnd line).takeWhile isBlank,
      isDoubled c = false := by
    intro c hc
    rcases List.mem_cons.mp hc with rfl | hc
    · decide
    · exact isDoubled_of_isBlank (List.mem_takeWhile_imp hc)
  rw [lineTokens_mark, hsplit] at hts
  obtain ⟨vs, hvs, hsize⟩ := exists_textLine_of_append hfront hts
  rw [hsize, List.length_cons]
  rcases textSize_lineTokens hus with hzero | hline
  · omega
  · cases hvs.symm.trans hline
    omega

/-- A script with a byte order mark at its start has more text than without it. -/
theorem textSize_lt_of_parse_mark {cs : List Char} {ts us : List Token}
    (hts : parse (String.ofList (byteOrderMark :: cs)) = .ok ts)
    (hus : parse (String.ofList cs) = .ok us) : textSize us < textSize ts := by
  rw [parse_eq, String.toList_ofList] at hts hus
  rw [List.splitOn_cons_eq_if_modifyHead, if_neg (by decide)] at hts
  cases hparts : cs.splitOn '\n' with
  | nil => exact absurd hparts (List.splitOn_ne_nil '\n' cs)
  | cons line rest =>
    rw [hparts, List.modifyHead_cons] at hts
    rw [hparts] at hus
    obtain ⟨here, there, hhere, hthere, rfl⟩ := tokensFrom_cons_eq_ok_iff.mp hts
    obtain ⟨here', there', hhere', hthere', rfl⟩ := tokensFrom_cons_eq_ok_iff.mp hus
    cases hthere.symm.trans hthere'
    have hlt := textSize_lt_of_mark hhere hhere'
    rw [textSize_append, textSize_append]
    omega

/-- A mark goes unnoticed only where the script has the same fault without it. -/
theorem parse_mark_eq_iff (cs : List Char) :
    parse (String.ofList (byteOrderMark :: cs)) = parse (String.ofList cs) ↔
      ∃ err, parse (String.ofList (byteOrderMark :: cs)) = .error err ∧
        parse (String.ofList cs) = .error err := by
  constructor
  · intro h
    cases hus : parse (String.ofList cs) with
    | error err => exact ⟨err, h.trans hus, rfl⟩
    | ok us => exact absurd (textSize_lt_of_parse_mark (h.trans hus) hus) (lt_irrefl _)
  · rintro ⟨err, hmark, hplain⟩
    rw [hmark, hplain]

end StoryPlayer.Script
