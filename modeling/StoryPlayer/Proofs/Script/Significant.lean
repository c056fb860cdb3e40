import Mathlib.Data.List.Forall2
import StoryPlayer.Proofs.Script.TagBody
import StoryPlayer.Script.Reader

/-!
# Significant lines

A significant line is one that is neither blank nor a comment.  If it can be read at all it gives a
token at least, whatever kind of line it is (`significantTokens_ne_nil`): in a text line every
character goes to a text or belongs to a tag, and a text that has begun is never dropped.

So the tokens of a script fall into one part for each significant line, none of them empty
(`parse_eq_ok_iff`), and only a script without significant lines has no tokens
(`parse_eq_ok_nil_iff`).
-/

namespace StoryPlayer.Script

open Text (trim lines)

/-! ## One line -/

theorem textToken_ne_nil {text : List Char} (h : text ≠ []) : textToken text ≠ [] := by
  simp [textToken, h]

/-- A text line gives a token if there is a character left in it or a text has begun. -/
theorem textLineFrom_ne_nil {text cs : List Char} {ts : List Token}
    (h : textLineFrom text cs = .ok ts) (hne : text ≠ [] ∨ cs ≠ []) : ts ≠ [] := by
  fun_induction textLineFrom text cs generalizing ts with
  | case1 text =>
    rw [← Except.ok.inj h]
    exact textToken_ne_nil (by simpa using hne)
  | case2 text rest ih => exact ih h (.inl (List.cons_ne_nil _ _))
  | case3 text rest ih => exact ih h (.inl (List.cons_ne_nil _ _))
  | case4 text rest ih => exact ih h (.inl (List.cons_ne_nil _ _))
  | case5 text rest _ hd => cases h
  | case6 text rest _ head after hd ih =>
    obtain ⟨tag, -, h⟩ := bind_eq_ok_iff.mp h
    obtain ⟨tokens, -, h⟩ := bind_eq_ok_iff.mp h
    rw [← Except.ok.inj h]
    exact List.append_ne_nil_of_right_ne_nil _ (List.cons_ne_nil _ _)
  | case7 text rest _ =>
    obtain ⟨tag, -, h⟩ := bind_eq_ok_iff.mp h
    rw [← Except.ok.inj h]
    exact List.append_ne_nil_of_right_ne_nil _ (List.cons_ne_nil _ _)
  | case8 text tail _ => cases h
  | case9 text c rest _ _ _ _ _ _ ih => exact ih h (.inl (List.cons_ne_nil _ _))

/-- **A significant line gives a token at least.** -/
theorem significantTokens_ne_nil {line : List Char} {ts : List Token}
    (h : significantTokens line = .ok ts) (hs : isSignificant line = true) : ts ≠ [] := by
  have hline : line ≠ [] := by
    rintro rfl
    exact absurd hs (by decide)
  rw [significantTokens.eq_def] at h
  split at h
  · obtain ⟨l, -, h⟩ := bind_eq_ok_iff.mp h
    rw [← Except.ok.inj h]
    exact List.cons_ne_nil _ _
  · exact textLineFrom_ne_nil h (.inr hline)
  · obtain ⟨t, -, h⟩ := bind_eq_ok_iff.mp h
    rw [← Except.ok.inj h]
    exact List.cons_ne_nil _ _
  · exact textLineFrom_ne_nil h (.inr hline)

/-! ## All lines -/

/-- The lines of a script that carry tokens, without the blanks around them. -/
def significantLines (script : String) : List (List Char) :=
  ((lines script.toList).map trim).filter isSignificant

/-- `Gives line part`: a line is read by itself, as some tokens. -/
def Gives (line : List Char) (part : List Token) : Prop :=
  significantTokens line = .ok part ∧ part ≠ []

theorem tokensFrom_cons_eq_ok_iff {number : Nat} {line : List Char} {rest : List (List Char)}
    {ts : List Token} :
    tokensFrom number (line :: rest) = .ok ts ↔
      ∃ here there, lineTokens line = .ok here ∧ tokensFrom (number + 1) rest = .ok there ∧
        ts = here ++ there := by
  rw [tokensFrom]
  constructor
  · intro h
    obtain ⟨here, hhere, h⟩ := bind_eq_ok_iff.mp h
    obtain ⟨there, hthere, h⟩ := bind_eq_ok_iff.mp h
    exact ⟨here, there, mapError_eq_ok_iff.mp hhere, hthere, (Except.ok.inj h).symm⟩
  · rintro ⟨here, there, hhere, hthere, rfl⟩
    rw [hhere, hthere]
    rfl

theorem tokensFrom_eq_ok_iff (number : Nat) (ls : List (List Char)) (ts : List Token) :
    tokensFrom number ls = .ok ts ↔
      ∃ parts, List.Forall₂ Gives ((ls.map trim).filter isSignificant) parts ∧
        ts = parts.flatten := by
  induction ls generalizing number ts with
  | nil =>
    rw [tokensFrom, List.map_nil, List.filter_nil]
    constructor
    · intro h
      exact ⟨[], .nil, (Except.ok.inj h).symm⟩
    · rintro ⟨parts, hparts, rfl⟩
      rw [List.forall₂_nil_left_iff.mp hparts]
      rfl
  | cons line rest ih =>
    rw [tokensFrom_cons_eq_ok_iff, List.map_cons, List.filter_cons]
    by_cases hs : isSignificant (trim line) = true
    · rw [if_pos hs, lineTokens, if_pos hs]
      constructor
      · rintro ⟨here, there, hhere, hthere, rfl⟩
        obtain ⟨parts, hparts, rfl⟩ := (ih _ _).mp hthere
        exact ⟨here :: parts, .cons ⟨hhere, significantTokens_ne_nil hhere hs⟩ hparts, rfl⟩
      · rintro ⟨parts, hparts, rfl⟩
        obtain ⟨here, others, hhere, hothers, rfl⟩ := List.forall₂_cons_left_iff.mp hparts
        exact ⟨here, others.flatten, hhere.1, (ih _ _).mpr ⟨others, hothers, rfl⟩, rfl⟩
    · rw [if_neg hs, lineTokens, if_neg hs, ← ih (number + 1)]
      constructor
      · rintro ⟨here, there, hhere, hthere, rfl⟩
        cases hhere
        exact hthere
      · intro h
        exact ⟨[], ts, rfl, h, rfl⟩

theorem parse_eq_ok_iff (s : String) (ts : List Token) :
    parse s = .ok ts ↔
      ∃ parts, List.Forall₂ Gives (significantLines s) parts ∧ ts = parts.flatten :=
  tokensFrom_eq_ok_iff 1 (lines s.toList) ts

theorem parse_eq_ok_nil_iff (s : String) : parse s = .ok [] ↔ significantLines s = [] := by
  rw [parse_eq_ok_iff]
  generalize significantLines s = ls
  constructor
  · rintro ⟨parts, hparts, hnil⟩
    cases hparts with
    | nil => rfl
    | cons hgives _ => exact absurd (List.append_eq_nil_iff.mp hnil.symm).1 hgives.2
  · rintro rfl
    exact ⟨[], .nil, rfl⟩

end StoryPlayer.Script
