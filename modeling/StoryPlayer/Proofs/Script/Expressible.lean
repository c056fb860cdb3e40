import StoryPlayer.Proofs.Script.Significant

/-!
# The tokens that a script can have

`Expressible ts` says of a list of tokens what every script's tokens satisfy
(`expressible_of_parse`).  Labels and tags are judged one by one.  A text is judged with its
neighbours: one that begins with a blank, `;` or `*` cannot begin a line, so it stands right behind a
tag in brackets, and one that ends with a blank cannot end a line, so a tag follows it.

The lines of a script are independent of each other: the last token of a line leans on nothing, and
neither does the first of the next (`FitAfter.append`).  Within a text line the induction goes over
`textLineFrom`, with the text that has begun as part of the line that is left.
-/

namespace StoryPlayer.Script

open Text (isBlank IsTrimmed trim lines)

/-! ## Labels -/

/-- A text that can stand in a label line: it is not empty, not blank at its ends, and has no line
feed. -/
def IsTitle (s : String) : Prop := s ≠ "" ∧ IsTrimmed s.toList ∧ '\n' ∉ s.toList

instance (s : String) : Decidable (IsTitle s) := inferInstanceAs (Decidable (_ ∧ _))

/-- What a label must be like to be written. -/
structure Label.IsExpressible (l : Label) : Prop where
  label_title : IsTitle l.label
  label_plain : '|' ∉ l.label.toList
  heading_title : IsTitle l.heading

instance (l : Label) : Decidable l.IsExpressible :=
  decidable_of_iff (IsTitle l.label ∧ '|' ∉ l.label.toList ∧ IsTitle l.heading)
    ⟨fun h => ⟨h.1, h.2.1, h.2.2⟩, fun h => ⟨h.1, h.2, h.3⟩⟩

instance (t : Tag) : Decidable t.IsExpressible :=
  decidable_of_iff (t.name ≠ "" ∧ '=' ∉ t.name.toList ∧
      (∀ e ∈ t.attributes.entries, '=' ∉ e.1.toList) ∧
      ∀ s ∈ t.texts, '"' ∉ s.toList ∧ '\n' ∉ s.toList)
    ⟨fun h => ⟨h.1, h.2.1, h.2.2.1, h.2.2.2⟩, fun h => ⟨h.1, h.2, h.3, h.4⟩⟩

theorem isTitle_trim {cs : List Char} (hne : trim cs ≠ []) (hn : '\n' ∉ cs) :
    IsTitle (String.ofList (trim cs)) := by
  refine ⟨fun he => hne (by simpa using congrArg String.toList he), ?_, ?_⟩
  · rw [String.toList_ofList]
    exact Text.isTrimmed_trim cs
  · rw [String.toList_ofList]
    exact fun hc => hn (Text.trim_subset cs hc)

theorem isExpressible_ofLine {rest : List Char} {l : Label} (h : Label.ofLine rest = .ok l)
    (hn : '\n' ∉ rest) : l.IsExpressible := by
  have hlabel : '\n' ∉ rest.takeWhile (· ≠ '|') := fun hc => hn (List.takeWhile_subset _ hc)
  have hheading : '\n' ∉ (rest.dropWhile (· ≠ '|')).drop 1 :=
    fun hc => hn (List.dropWhile_subset _ (List.drop_subset 1 _ hc))
  unfold Label.ofLine at h
  dsimp only at h
  split at h
  · cases h
  · next hne =>
    rw [Except.ok.injEq] at h
    subst h
    rw [List.isEmpty_iff] at hne
    refine ⟨isTitle_trim hne hlabel, ?_, ?_⟩
    · rw [String.toList_ofList]
      exact fun hc => Text.not_mem_takeWhile_ne '|' rest (Text.trim_subset _ hc)
    · dsimp only
      split
      · exact isTitle_trim hne hlabel
      · next hhe => exact isTitle_trim (by simpa using hhe) hheading

/-! ## Neighbours -/

/-- Whether no text of a tag holds `]`, so that the tag can be written in brackets. -/
def Tag.isInline (t : Tag) : Bool := t.texts.all fun s => ']' ∉ s.toList

theorem isInline_ofBody {body : List Char} {t : Tag} (h : Tag.ofBody body = .ok t)
    (hb : ']' ∉ body) : t.isInline := by
  rw [Tag.isInline, List.all_eq_true]
  refine fun s hs => decide_eq_true fun hc => ?_
  rcases mem_texts_ofBody h hs hc with hc | hc
  · exact hb hc.1
  · exact absurd hc (by decide)

def Token.isTag : Token → Bool
  | .tag _ => true
  | _ => false

def Token.isInline : Token → Bool
  | .tag t => t.isInline
  | _ => false

/-- Whether a text cannot begin a line: its first character would be trimmed, or make the line a
comment or a label. -/
def leansBack (s : List Char) : Bool := s.head?.any fun c => isBlank c || c = ';' || c = '*'

/-- Whether a text cannot end a line: its last character would be trimmed. -/
def leansForward (s : List Char) : Bool := s.getLast?.any isBlank

/-- What a token must be like to be written between its neighbours. -/
def Token.Fits (before after : Option Token) : Token → Prop
  | .label l => l.IsExpressible
  | .tag t => t.IsExpressible
  | .text s => s ≠ "" ∧ '\n' ∉ s.toList ∧
      (leansBack s.toList → before.any Token.isInline) ∧
      (leansForward s.toList → after.any Token.isTag)

/-- All tokens of a list fit, given the token before them. -/
def FitAfter : Option Token → List Token → Prop
  | _, [] => True
  | before, t :: rest => t.Fits before rest.head? ∧ FitAfter (some t) rest

/-- What the tokens of a script are like. -/
def Expressible (ts : List Token) : Prop := FitAfter none ts

instance (before after : Option Token) (t : Token) : Decidable (t.Fits before after) :=
  match t with
  | .label l => inferInstanceAs (Decidable l.IsExpressible)
  | .tag t => inferInstanceAs (Decidable t.IsExpressible)
  | .text _ => inferInstanceAs (Decidable (_ ∧ _))

instance decidableFitAfter : (before : Option Token) → (ts : List Token) →
    Decidable (FitAfter before ts)
  | _, [] => inferInstanceAs (Decidable True)
  | before, t :: rest =>
    have := decidableFitAfter (some t) rest
    inferInstanceAs (Decidable (t.Fits before rest.head? ∧ FitAfter (some t) rest))

instance (ts : List Token) : Decidable (Expressible ts) := inferInstanceAs (Decidable (FitAfter _ _))

/-- A token that fits with a neighbour missing fits with any. -/
theorem Token.Fits.mono {t : Token} {before before' after after' : Option Token}
    (h : t.Fits before after) (hb : before = none ∨ before = before')
    (ha : after = none ∨ after = after') : t.Fits before' after' := by
  cases t with
  | label l => exact h
  | tag t => exact h
  | text s =>
    refine ⟨h.1, h.2.1, fun hl => ?_, fun hl => ?_⟩
    · rcases hb with rfl | rfl
      · exact absurd (h.2.2.1 hl) (by simp)
      · exact h.2.2.1 hl
    · rcases ha with rfl | rfl
      · exact absurd (h.2.2.2 hl) (by simp)
      · exact h.2.2.2 hl

theorem Token.Fits.not_leansBack {s : String} {after : Option Token}
    (h : (Token.text s).Fits none after) : leansBack s.toList = false := by
  cases hb : leansBack s.toList with
  | false => rfl
  | true => exact absurd (h.2.2.1 hb) (by simp)

theorem Token.Fits.not_leansForward {s : String} {before : Option Token}
    (h : (Token.text s).Fits before none) : leansForward s.toList = false := by
  cases hb : leansForward s.toList with
  | false => rfl
  | true => exact absurd (h.2.2.2 hb) (by simp)

theorem FitAfter.of_none {ts : List Token} (h : FitAfter none ts) (before : Option Token) :
    FitAfter before ts := by
  cases ts with
  | nil => exact trivial
  | cons t rest => exact ⟨h.1.mono (Or.inl rfl) (Or.inr rfl), h.2⟩

/-- **Lists that lean on nothing can follow each other.** -/
theorem FitAfter.append {before : Option Token} {ts us : List Token} (h : FitAfter before ts)
    (hu : FitAfter none us) : FitAfter before (ts ++ us) := by
  induction ts generalizing before with
  | nil => exact hu.of_none before
  | cons t rest ih =>
    refine ⟨h.1.mono (Or.inr rfl) ?_, ih h.2⟩
    cases rest with
    | nil => exact Or.inl rfl
    | cons u rest => exact Or.inr rfl

/-! ## Text lines -/

theorem leansBack_append {s : List Char} (hne : s ≠ []) (rest : List Char) :
    leansBack (s ++ rest) = leansBack s := by
  rw [leansBack, List.head?_append_of_ne_nil s hne, leansBack]

theorem leansBack_double (s rest : List Char) (c : Char) :
    leansBack (s ++ c :: c :: rest) = leansBack (s ++ c :: rest) := by
  rw [leansBack, List.head?_append, leansBack, List.head?_append]
  rfl

theorem leansForward_double (s rest : List Char) (c : Char) :
    leansForward (s ++ c :: c :: rest) = leansForward (s ++ c :: rest) := by
  rw [leansForward, List.getLast?_append, List.getLast?_cons_cons, leansForward,
    List.getLast?_append]

theorem leansForward_of_suffix {s cs : List Char} (hs : s <:+ cs)
    (h : leansForward cs = false) : leansForward s = false := by
  obtain ⟨front, rfl⟩ := hs
  rcases s.eq_nil_or_concat' with rfl | ⟨init, c, rfl⟩
  · rfl
  · rw [← List.append_assoc, leansForward, List.getLast?_concat] at h
    rw [leansForward, List.getLast?_concat]
    exact h

/-- A text line part way through: the text that has begun, latest first, and what is left of the
line.  Together they lean back on nothing but a tag in brackets, and forward on nothing. -/
structure Begun (before : Option Token) (text cs : List Char) : Prop where
  text_plain : '\n' ∉ text
  rest_plain : '\n' ∉ cs
  back : leansBack (text.reverse ++ cs) → before.any Token.isInline
  forward : leansForward (text.reverse ++ cs) = false

namespace Begun

variable {before : Option Token} {text rest : List Char} {c : Char}

/-- A character goes over to the text. -/
theorem single (h : Begun before text (c :: rest)) : Begun before (c :: text) rest where
  text_plain hm := by
    rcases List.mem_cons.mp hm with rfl | hm
    · exact h.rest_plain List.mem_cons_self
    · exact h.text_plain hm
  rest_plain hm := h.rest_plain (List.mem_cons_of_mem c hm)
  back hl := h.back (by simpa using hl)
  forward := by simpa using h.forward

/-- A doubled character goes over to the text as one. -/
theorem double (h : Begun before text (c :: c :: rest)) : Begun before (c :: text) rest :=
  single
    { text_plain := h.text_plain
      rest_plain := fun hm => h.rest_plain (List.mem_cons_of_mem c hm)
      back := by rw [← leansBack_double]; exact h.back
      forward := by rw [← leansForward_double]; exact h.forward }

/-- Behind a tag in brackets the text begins anew. -/
theorem after_inline {cs after : List Char} (h : Begun before text cs) (hs : after <:+ cs) {t : Tag}
    (ht : t.isInline) : Begun (some (.tag t)) [] after where
  text_plain := List.not_mem_nil
  rest_plain hm := h.rest_plain (hs.subset hm)
  back _ := ht
  forward := leansForward_of_suffix (hs.trans (List.suffix_append _ cs)) h.forward

/-- The text that has begun fits before what fits on any token. -/
theorem textToken {us : List Token} (h : Begun before text rest)
    (hf : leansForward text.reverse → us.head?.any Token.isTag) (hu : ∀ b, FitAfter b us) :
    FitAfter before (textToken text ++ us) := by
  rw [Script.textToken]
  split
  · exact hu before
  · next hne =>
    have hne : text ≠ [] := by simpa using hne
    refine ⟨⟨fun he => hne (by simpa using congrArg String.toList he), ?_⟩, hu _⟩
    rw [String.toList_ofList]
    refine ⟨by simpa using h.text_plain, fun hl => h.back ?_, hf⟩
    rwa [leansBack_append (by simpa using hne)]

end Begun

theorem fitAfter_textLineFrom {before : Option Token} {text cs : List Char} {ts : List Token}
    (h : textLineFrom text cs = .ok ts) (hb : Begun before text cs) : FitAfter before ts := by
  fun_induction textLineFrom text cs generalizing before ts with
  | case1 text =>
    have hf := hb.forward
    rw [List.append_nil] at hf
    rw [← Except.ok.inj h, ← List.append_nil (textToken text)]
    exact hb.textToken (fun hl => by simp [hf] at hl) fun _ => trivial
  | case2 text rest ih => exact ih h hb.double
  | case3 text rest ih => exact ih h hb.double
  | case4 text rest ih => exact ih h hb.double
  | case5 text rest _ hd => cases h
  | case6 text rest _ head after hd ih =>
    obtain ⟨tag, htag, h⟩ := bind_eq_ok_iff.mp h
    obtain ⟨tokens, htokens, h⟩ := bind_eq_ok_iff.mp h
    rw [← Except.ok.inj h]
    have hrest : '\n' ∉ rest := fun hm => hb.rest_plain (List.mem_cons_of_mem _ hm)
    have hsuffix : after <:+ '[' :: rest :=
      ((List.suffix_cons head after).trans (hd ▸ List.dropWhile_suffix _)).trans
        (List.suffix_cons '[' rest)
    have hinline : tag.isInline := isInline_ofBody htag (Text.not_mem_takeWhile_ne ']' rest)
    have hexp : tag.IsExpressible :=
      isExpressible_ofBody htag fun hm => hrest (List.takeWhile_subset _ hm)
    have hfit := ih htokens (hb.after_inline hsuffix hinline)
    exact hb.textToken (fun _ => rfl) fun _ => ⟨hexp, hfit⟩
  | case7 text rest _ =>
    obtain ⟨tag, htag, h⟩ := bind_eq_ok_iff.mp h
    rw [← Except.ok.inj h]
    have hexp : tag.IsExpressible :=
      isExpressible_ofBody htag fun hm => hb.rest_plain (List.mem_cons_of_mem _ hm)
    exact hb.textToken (fun _ => rfl) fun _ => ⟨hexp, trivial⟩
  | case8 text tail _ => cases h
  | case9 text c rest _ _ _ _ _ _ ih => exact ih h hb.single

/-! ## Scripts -/

/-- A trimmed line that is no comment and no label leans on nothing. -/
theorem begun_of_isTrimmed {line : List Char} (ht : IsTrimmed line) (hn : '\n' ∉ line)
    (hc : line.head? ≠ some ';') (hl : line.head? ≠ some '*') : Begun none [] line where
  text_plain := List.not_mem_nil
  rest_plain := hn
  back hb := by
    obtain ⟨c, hhead, hlean⟩ := (Option.any_eq_true _ _).mp hb
    have hblank : isBlank c = false := ht.1 c hhead
    rw [List.reverse_nil, List.nil_append] at hhead
    rw [hhead, ne_eq, Option.some.injEq] at hc hl
    simp [hblank, hc, hl] at hlean
  forward := (Option.any_eq_false _ _).mpr fun c hlast => by simpa using ht.2 c hlast

/-- What a line gives leans on nothing before it and nothing behind it. -/
theorem fitAfter_lineTokens {line : List Char} {ts : List Token} (h : lineTokens line = .ok ts)
    (hn : '\n' ∉ line) : FitAfter none ts := by
  rw [lineTokens] at h
  split at h
  · next hs =>
    have ht := Text.isTrimmed_trim line
    have hn' : '\n' ∉ trim line := fun hm => hn (Text.trim_subset line hm)
    have hc : (trim line).head? ≠ some ';' := by
      rw [isSignificant, Bool.and_eq_true, decide_eq_true_eq] at hs
      exact hs.2
    generalize trim line = cs at h ht hn' hc
    unfold significantTokens at h
    split at h
    · next rest =>
      obtain ⟨l, hl, h⟩ := bind_eq_ok_iff.mp h
      rw [← Except.ok.inj h]
      exact ⟨isExpressible_ofLine hl fun hm => hn' (List.mem_cons_of_mem _ hm), trivial⟩
    · exact fitAfter_textLineFrom h (begun_of_isTrimmed ht hn' hc (by simp))
    · next rest _ =>
      obtain ⟨t, ht, h⟩ := bind_eq_ok_iff.mp h
      rw [← Except.ok.inj h]
      exact ⟨isExpressible_ofBody ht fun hm => hn' (List.mem_cons_of_mem _ hm), trivial⟩
    · next hstar _ _ =>
      refine fitAfter_textLineFrom h (begun_of_isTrimmed ht hn' hc fun hl => ?_)
      obtain ⟨rest, rfl⟩ := List.head?_eq_some_iff.mp hl
      exact hstar rest rfl
  · rw [← Except.ok.inj h]
    exact trivial

theorem fitAfter_tokensFrom {number : Nat} {ls : List (List Char)} {ts : List Token}
    (h : tokensFrom number ls = .ok ts) (hn : ∀ line ∈ ls, '\n' ∉ line) : FitAfter none ts := by
  induction ls generalizing number ts with
  | nil =>
    rw [← Except.ok.inj h]
    exact trivial
  | cons line rest ih =>
    obtain ⟨here, there, hhere, hthere, rfl⟩ := tokensFrom_cons_eq_ok_iff.mp h
    exact (fitAfter_lineTokens hhere (hn line List.mem_cons_self)).append
      (ih hthere fun l hl => hn l (List.mem_cons_of_mem line hl))

/-- **The tokens of every script are expressible.** -/
theorem expressible_of_parse {s : String} {ts : List Token} (h : parse s = .ok ts) :
    Expressible ts := fitAfter_tokensFrom h fun _ hl => Text.not_mem_of_mem_lines hl

end StoryPlayer.Script
