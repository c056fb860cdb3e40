import StoryPlayer.Proofs.Script.Printer

/-!
# The grammar of text lines

A text line is taken apart into a `Phrase`: texts with `[`, `]` and `@` doubled, tags in brackets
between them, and perhaps a tag behind `@`.  A line is a phrase in at most one way
(`Phrase.spelling_injective`), since what follows a text never looks like a doubled character
(`escape_append_inj`).

Every line begins with a phrase whose tags are all accepted, and either that is the line, or what
follows has a fault at its very start (`takenApart`).  Such a beginning decides what the line is read
as: its tokens in the one case (`textLine_of_phrase`), the fault in the other (`textLine_of_offends`).
So the tokens of a line are those of its phrase, and its fault is that of the leftmost place that has
one (`textLine_grammar`).
-/

namespace StoryPlayer.Script

/-! ## Phrases -/

/-- A text and a tag in brackets behind it. -/
@[ext]
structure Inline where
  text : List Char
  body : List Char
  closed : ']' ∉ body
  single : body.head? ≠ some '['

/-- A tag behind `@`. -/
@[ext]
structure Final where
  body : List Char
  single : body.head? ≠ some '@'

/-- A text line taken apart: texts with tags in brackets behind them, one more text, and perhaps a tag
behind `@`.  Each text may be empty. -/
@[ext]
structure Phrase where
  inlines : List Inline
  text : List Char
  final? : Option Final

/-- The token of a text, if it is not empty. -/
def textTokens (text : List Char) : List Token :=
  if text = [] then [] else [.text (String.ofList text)]

namespace Inline

def spelling (i : Inline) : List Char := escape i.text ++ '[' :: (i.body ++ [']'])

def tokens (i : Inline) : Except Fault (List Token) := do
  return textTokens i.text ++ [.tag (← Tag.ofBody i.body)]

end Inline

namespace Final

def spelling (f : Final) : List Char := '@' :: f.body

/-- The token of a tag behind `@`, if there is one. -/
def tokens : Option Final → Except Fault (List Token)
  | none => .ok []
  | some f => do return [.tag (← Tag.ofBody f.body)]

end Final

namespace Phrase

/-- The line that a phrase is written as. -/
def spelling (p : Phrase) : List Char :=
  p.inlines.flatMap Inline.spelling ++ (escape p.text ++ p.final?.elim [] Final.spelling)

/-- The tokens of a phrase, or the fault of its first tag that has one. -/
def tokens (p : Phrase) : Except Fault (List Token) := do
  let before ← p.inlines.mapM Inline.tokens
  let last ← Final.tokens p.final?
  return before.flatten ++ (textTokens p.text ++ last)

end Phrase

theorem Inline.mapM_tokens_cons_eq_ok_iff {i : Inline} {is : List Inline}
    {before : List (List Token)} :
    (i :: is).mapM tokens = .ok before ↔
      ∃ tag others, Tag.ofBody i.body = .ok tag ∧ is.mapM tokens = .ok others ∧
        before = (textTokens i.text ++ [.tag tag]) :: others := by
  rw [List.mapM_cons]
  constructor
  · intro h
    obtain ⟨first, hfirst, h⟩ := bind_eq_ok_iff.mp h
    obtain ⟨others, hothers, h⟩ := bind_eq_ok_iff.mp h
    obtain ⟨tag, htag, hfirst⟩ := bind_eq_ok_iff.mp hfirst
    cases hfirst
    cases h
    exact ⟨tag, others, htag, hothers, rfl⟩
  · rintro ⟨tag, others, htag, hothers, rfl⟩
    rw [tokens, htag, hothers]
    rfl

theorem Phrase.tokens_eq_ok_iff {p : Phrase} {ts : List Token} :
    p.tokens = .ok ts ↔
      ∃ before last, p.inlines.mapM Inline.tokens = .ok before ∧
        Final.tokens p.final? = .ok last ∧ ts = before.flatten ++ (textTokens p.text ++ last) := by
  constructor
  · intro h
    obtain ⟨before, hbefore, h⟩ := bind_eq_ok_iff.mp h
    obtain ⟨last, hlast, h⟩ := bind_eq_ok_iff.mp h
    cases h
    exact ⟨before, last, hbefore, hlast, rfl⟩
  · rintro ⟨before, last, hbefore, hlast, rfl⟩
    rw [tokens, hbefore, hlast]
    rfl

/-- `Offends rest fault`: no line can go on with `rest` behind an accepted text or tag, because of the
fault at its start. -/
inductive Offends : List Char → Fault → Prop
  /-- A `]` that is not doubled. -/
  | stray {rest : List Char} : rest.head? ≠ some ']' → Offends (']' :: rest) (.unexpectedChar ']')
  /-- A tag in brackets that is not closed. -/
  | unclosed {rest : List Char} : rest.head? ≠ some '[' → ']' ∉ rest →
      Offends ('[' :: rest) (.unterminatedTag (String.ofList rest))
  /-- A tag in brackets whose body is rejected. -/
  | inline {body rest : List Char} {fault : Fault} : ']' ∉ body → body.head? ≠ some '[' →
      Tag.ofBody body = .error fault → Offends ('[' :: (body ++ ']' :: rest)) fault
  /-- A tag behind `@` whose body is rejected. -/
  | final {body : List Char} {fault : Fault} : body.head? ≠ some '@' →
      Tag.ofBody body = .error fault → Offends ('@' :: body) fault

/-! ## A phrase is spelled in one way -/

theorem escape_cons (c : Char) (s : List Char) :
    escape (c :: s) = (if isDoubled c then [c, c] else [c]) ++ escape s := List.flatMap_cons

/-- What can follow a text in a line: nothing, or a character that is doubled in texts and stands
alone. -/
def Breaks (rest : List Char) : Prop :=
  ∀ c more, rest = c :: more → isDoubled c = true ∧ more.head? ≠ some c

theorem not_breaks_escape_cons (c : Char) (s rest : List Char) : ¬Breaks (escape (c :: s) ++ rest) := by
  intro h
  rw [escape_cons] at h
  cases hc : isDoubled c with
  | true =>
    rw [if_pos hc] at h
    exact (h c _ rfl).2 rfl
  | false =>
    rw [if_neg (by simp [hc])] at h
    exact Bool.false_ne_true (hc.symm.trans (h c _ rfl).1)

/-- **Where a text ends is seen from the line.** -/
theorem escape_append_inj {s s' rest rest' : List Char} (hr : Breaks rest) (hr' : Breaks rest')
    (h : escape s ++ rest = escape s' ++ rest') : s = s' ∧ rest = rest' := by
  induction s generalizing s' with
  | nil =>
    cases s' with
    | nil => exact ⟨rfl, h⟩
    | cons c s' =>
      have hrest : rest = escape (c :: s') ++ rest' := h
      exact absurd (hrest ▸ hr) (not_breaks_escape_cons c s' rest')
  | cons c s ih =>
    cases s' with
    | nil =>
      have hrest : escape (c :: s) ++ rest = rest' := h
      exact absurd (hrest ▸ hr') (not_breaks_escape_cons c s rest)
    | cons d s' =>
      have hhead := congrArg List.head? h
      rw [List.head?_append, List.head?_append, head?_escape, head?_escape] at hhead
      obtain rfl : c = d := Option.some.inj hhead
      rw [escape_cons, escape_cons, List.append_assoc, List.append_assoc,
        List.append_cancel_left_eq] at h
      obtain ⟨rfl, hrest⟩ := ih h
      exact ⟨rfl, hrest⟩

theorem Inline.breaks (i : Inline) (rest : List Char) :
    Breaks ('[' :: (i.body ++ ']' :: rest)) := by
  intro c more he
  obtain ⟨rfl, rfl⟩ := List.cons.inj he
  refine ⟨rfl, ?_⟩
  cases hb : i.body with
  | nil => simp
  | cons d body =>
    have hd := i.single
    rw [hb] at hd
    exact hd

theorem Inline.spelling_append (i : Inline) (rest : List Char) :
    i.spelling ++ rest = escape i.text ++ '[' :: (i.body ++ ']' :: rest) := by
  rw [spelling, List.append_assoc, List.cons_append, List.append_assoc, List.singleton_append]

theorem breaks_final (f? : Option Final) : Breaks (f?.elim [] Final.spelling) := by
  intro c more he
  cases f? with
  | none => cases he
  | some f =>
    obtain ⟨rfl, rfl⟩ := List.cons.inj he
    exact ⟨rfl, f.single⟩

theorem final_injective {f? g? : Option Final}
    (h : f?.elim [] Final.spelling = g?.elim [] Final.spelling) : f? = g? := by
  cases f? with
  | none =>
    cases g? with
    | none => rfl
    | some g => cases h
  | some f =>
    cases g? with
    | none => cases h
    | some g => exact congrArg some (Final.ext (List.cons.inj h).2)

/-- **A line is a phrase in at most one way.** -/
theorem Phrase.spelling_injective : Function.Injective Phrase.spelling := by
  intro p q h
  obtain ⟨is, s, f?⟩ := p
  obtain ⟨js, t, g?⟩ := q
  simp only [spelling] at h
  induction is generalizing js with
  | nil =>
    cases js with
    | nil =>
      obtain ⟨rfl, hf⟩ := escape_append_inj (breaks_final f?) (breaks_final g?) h
      rw [final_injective hf]
    | cons j js =>
      rw [List.flatMap_nil, List.nil_append, List.flatMap_cons, List.append_assoc,
        j.spelling_append] at h
      obtain ⟨-, hf⟩ := escape_append_inj (breaks_final f?) (j.breaks _) h
      cases f? with
      | none => cases hf
      | some f => cases (List.cons.inj hf).1
  | cons i is ih =>
    rw [List.flatMap_cons, List.append_assoc, i.spelling_append] at h
    cases js with
    | nil =>
      obtain ⟨-, hf⟩ := escape_append_inj (i.breaks _) (breaks_final g?) h
      cases g? with
      | none => cases hf
      | some g => cases (List.cons.inj hf).1
    | cons j js =>
      rw [List.flatMap_cons, List.append_assoc, j.spelling_append] at h
      obtain ⟨htext, hrest⟩ := escape_append_inj (i.breaks _) (j.breaks _) h
      obtain ⟨hbody, hrest⟩ :=
        Text.append_cons_inj i.closed j.closed (List.cons.inj hrest).2
      have hq := ih js hrest
      rw [Phrase.mk.injEq] at hq
      rw [Inline.ext htext hbody, hq.1, hq.2.1, hq.2.2]

/-! ## Reading a phrase -/

theorem textToken_reverse_eq (s : List Char) : textToken s.reverse = textTokens s := by
  cases s with
  | nil => rfl
  | cons c s => simp [textToken, textTokens]

/-- Accepted tags and the texts before them are read one after another. -/
theorem textLineFrom_inlines {is : List Inline} {before : List (List Token)}
    (h : is.mapM Inline.tokens = .ok before) (rest : List Char) :
    textLineFrom [] (is.flatMap Inline.spelling ++ rest) = do
      let ts ← textLineFrom [] rest
      return before.flatten ++ ts := by
  induction is generalizing before with
  | nil =>
    rw [← Except.ok.inj h]
    exact (bind_pure _).symm
  | cons i is ih =>
    obtain ⟨tag, others, htag, hothers, rfl⟩ := Inline.mapM_tokens_cons_eq_ok_iff.mp h
    rw [List.flatMap_cons, List.append_assoc, i.spelling_append, textLineFrom_escape,
      List.append_nil, textLineFrom_bracket i.closed i.single, ih hothers, htag,
      textToken_reverse_eq]
    cases textLineFrom [] rest with
    | error fault => rfl
    | ok ts => simp [bind, Except.bind, pure, Except.pure]

/-- The text behind such tags begins, and the rest of the line decides. -/
theorem textLine_inlines {is : List Inline} {before : List (List Token)}
    (h : is.mapM Inline.tokens = .ok before) (text rest : List Char) :
    textLine (is.flatMap Inline.spelling ++ (escape text ++ rest)) = do
      let ts ← textLineFrom text.reverse rest
      return before.flatten ++ ts := by
  rw [textLine, textLineFrom_inlines h, textLineFrom_escape, List.append_nil]

/-- The tokens of a phrase are those of its line. -/
theorem textLine_of_phrase {p : Phrase} {ts : List Token} (h : p.tokens = .ok ts) :
    textLine p.spelling = .ok ts := by
  obtain ⟨before, last, hbefore, hlast, rfl⟩ := Phrase.tokens_eq_ok_iff.mp h
  obtain ⟨is, text, f?⟩ := p
  rw [Phrase.spelling, textLine_inlines hbefore]
  cases f? with
  | none =>
    rw [← Except.ok.inj hlast, Option.elim_none, textLineFrom, textToken_reverse_eq,
      List.append_nil]
    rfl
  | some f =>
    obtain ⟨tag, htag, hlast⟩ := bind_eq_ok_iff.mp hlast
    rw [← Except.ok.inj hlast, Option.elim_some, Final.spelling, textLineFrom_at f.single, htag,
      textToken_reverse_eq]
    rfl

/-- What offends is a fault, whatever text has begun. -/
theorem textLineFrom_of_offends {rest : List Char} {fault : Fault} (h : Offends rest fault)
    (text : List Char) : textLineFrom text rest = .error fault := by
  cases h with
  | stray hr =>
    rw [textLineFrom]
    rintro more rfl
    exact hr rfl
  | @unclosed rest hh hc =>
    have hd : rest.dropWhile (· ≠ ']') = [] :=
      List.dropWhile_eq_nil_iff.mpr (Text.decide_ne_of_not_mem hc)
    rw [textLineFrom]
    · split
      · rfl
      · next he => rw [hd] at he; cases he
    · rintro more rfl
      exact hh rfl
  | inline hb hh he =>
    rw [textLineFrom_bracket hb hh, he]
    rfl
  | final hh he =>
    rw [textLineFrom_at hh, he]
    rfl

/-- What offends behind an accepted phrase is the fault of the line. -/
theorem textLine_of_offends {p : Phrase} {rest : List Char} {ts : List Token} {fault : Fault}
    (hf : p.final? = none) (h : p.tokens = .ok ts) (ho : Offends rest fault) :
    textLine (p.spelling ++ rest) = .error fault := by
  obtain ⟨before, -, hbefore, -⟩ := Phrase.tokens_eq_ok_iff.mp h
  rw [Phrase.spelling, hf, Option.elim_none, List.append_nil, List.append_assoc,
    textLine_inlines hbefore, textLineFrom_of_offends ho]
  rfl

/-! ## Every line begins with a phrase -/

/-- A line is taken apart: it begins with a phrase whose tags are accepted, and what is left is
nothing or offends. -/
def TakenApart (line : List Char) : Prop :=
  ∃ (p : Phrase) (rest : List Char), line = p.spelling ++ rest ∧ (∃ ts, p.tokens = .ok ts) ∧
    (rest = [] ∨ p.final? = none ∧ ∃ fault, Offends rest fault)

theorem takenApart_of_offends (text : List Char) {rest : List Char} {fault : Fault}
    (h : Offends rest fault) : TakenApart (escape text ++ rest) :=
  ⟨⟨[], text, none⟩, rest, by simp [Phrase.spelling], ⟨_, rfl⟩, .inr ⟨rfl, fault, h⟩⟩

theorem takenApart_escape (text : List Char) : TakenApart (escape text) :=
  ⟨⟨[], text, none⟩, [], by simp [Phrase.spelling], ⟨_, rfl⟩, .inl rfl⟩

theorem takenApart_final (text : List Char) (f : Final) :
    TakenApart (escape text ++ f.spelling) := by
  cases h : Tag.ofBody f.body with
  | error fault => exact takenApart_of_offends text (.final f.single h)
  | ok tag =>
    have hlast : Final.tokens (some f) = .ok [.tag tag] := by
      rw [Final.tokens, h]
      rfl
    exact ⟨⟨[], text, some f⟩, [], by simp [Phrase.spelling],
      ⟨_, Phrase.tokens_eq_ok_iff.mpr ⟨[], _, rfl, hlast, rfl⟩⟩, .inl rfl⟩

theorem takenApart_inline (i : Inline) {rest : List Char} (hr : TakenApart rest) :
    TakenApart (i.spelling ++ rest) := by
  cases h : Tag.ofBody i.body with
  | error fault =>
    rw [i.spelling_append]
    exact takenApart_of_offends i.text (.inline i.closed i.single h)
  | ok tag =>
    obtain ⟨⟨is, text, f?⟩, left, rfl, ⟨ts, hts⟩, hleft⟩ := hr
    obtain ⟨before, last, hbefore, hlast, -⟩ := Phrase.tokens_eq_ok_iff.mp hts
    have hinlines := Inline.mapM_tokens_cons_eq_ok_iff.mpr ⟨tag, before, h, hbefore, rfl⟩
    exact ⟨⟨i :: is, text, f?⟩, left, by simp [Phrase.spelling],
      ⟨_, Phrase.tokens_eq_ok_iff.mpr ⟨_, last, hinlines, hlast, rfl⟩⟩, hleft⟩

theorem head?_ne_some {c : Char} {cs : List Char} (h : ∀ more, cs = c :: more → False) :
    cs.head? ≠ some c := by
  intro hc
  obtain ⟨more, hmore⟩ := List.head?_eq_some_iff.mp hc
  exact h more hmore

/-- **Every line is taken apart**, also with a text that has begun in front of it. -/
theorem takenApart (text cs : List Char) : TakenApart (escape text.reverse ++ cs) := by
  have hdouble {c : Char} (hc : isDoubled c = true) (text rest : List Char) :
      escape text.reverse ++ c :: c :: rest = escape (c :: text).reverse ++ rest := by
    simp [escape, hc]
  fun_induction textLineFrom text cs with
  | case1 text =>
    rw [List.append_nil]
    exact takenApart_escape _
  | case2 text rest ih => rwa [hdouble (by decide)]
  | case3 text rest ih => rwa [hdouble (by decide)]
  | case4 text rest ih => rwa [hdouble (by decide)]
  | case5 text rest hh hd =>
    exact takenApart_of_offends _ (.unclosed (head?_ne_some hh)
      (Text.not_mem_of_dropWhile_ne_eq_nil hd))
  | case6 text rest hh head after hd ih =>
    obtain ⟨rfl, hrest⟩ := Text.eq_append_of_dropWhile_ne hd
    have hsingle : (rest.takeWhile (· ≠ ']')).head? ≠ some '[' := by
      intro hc
      obtain ⟨more, hmore⟩ := List.head?_eq_some_iff.mp hc
      rw [hmore] at hrest
      exact hh _ hrest
    rw [hrest, ← Inline.spelling_append
      ⟨text.reverse, rest.takeWhile (· ≠ ']'), Text.not_mem_takeWhile_ne ']' rest, hsingle⟩]
    exact takenApart_inline _ ih
  | case7 text rest hh => exact takenApart_final _ ⟨rest, head?_ne_some hh⟩
  | case8 text rest hh => exact takenApart_of_offends _ (.stray (head?_ne_some hh))
  | case9 text c rest _ _ _ hopen hat hclose ih =>
    have hc : isDoubled c = false := by
      simp only [isDoubled, Bool.or_eq_false_iff, decide_eq_false_iff_not]
      exact ⟨⟨hopen, hclose⟩, hat⟩
    have hplain : escape text.reverse ++ c :: rest = escape (c :: text).reverse ++ rest := by
      simp [escape, hc]
    rwa [hplain]

/-! ## What a line is read as -/

/-- **The grammar of text lines.**  The tokens of a line are those of the phrase that it is, and a line
is at most one phrase.  A fault is that of the leftmost place that has one: an accepted phrase stands
in front of it. -/
theorem textLine_grammar (line : List Char) :
    (∀ ts, textLine line = .ok ts ↔ ∃ p : Phrase, line = p.spelling ∧ p.tokens = .ok ts) ∧
    Function.Injective Phrase.spelling ∧
    ∀ fault, textLine line = .error fault ↔ ∃ (p : Phrase) (rest : List Char),
      line = p.spelling ++ rest ∧ p.final? = none ∧ (∃ ts, p.tokens = .ok ts) ∧
        Offends rest fault := by
  obtain ⟨p, rest, hline, ⟨ts, hts⟩, hrest⟩ : TakenApart line := takenApart [] line
  refine ⟨fun us => ⟨fun h => ?_, ?_⟩, Phrase.spelling_injective, fun fault => ⟨fun h => ?_, ?_⟩⟩
  · rcases hrest with rfl | ⟨hf, fault, ho⟩
    · rw [List.append_nil] at hline
      rw [hline, textLine_of_phrase hts, Except.ok.injEq] at h
      exact ⟨p, hline, h ▸ hts⟩
    · rw [hline, textLine_of_offends hf hts ho] at h
      cases h
  · rintro ⟨q, rfl, hq⟩
    exact textLine_of_phrase hq
  · rcases hrest with rfl | ⟨hf, fault', ho⟩
    · rw [hline, List.append_nil, textLine_of_phrase hts] at h
      cases h
    · rw [hline, textLine_of_offends hf hts ho, Except.error.injEq] at h
      exact ⟨p, rest, hline, hf, ⟨ts, hts⟩, h ▸ ho⟩
  · rintro ⟨q, left, rfl, hf, ⟨us, hus⟩, ho⟩
    exact textLine_of_offends hf hus ho

example : textLine "[[[lr]]]".toList =
    .ok [.text "[", .tag (.named "lr"), .text "]"] := by cbv

end StoryPlayer.Script
