import Mathlib.Data.List.SplitBy
import StoryPlayer.Proofs.Script.Expressible

/-!
# Writing tokens down

`print` writes tokens as a script: a label as `*label|heading`, a tag with every word in quotes, in
brackets unless it holds `]`, and a text with `[`, `]` and `@` doubled.  Each token has a line of its
own, except that a text shares the line of the tag before or behind it where it has to (`joins`).

What is written is read back (`parse_print`), so the expressible lists are exactly those that some
script has (`exists_parse_iff_expressible`).  The proof goes line by line: the tokens of one line lean
on nothing outside of it (`fitAfter_of_mem_splitBy`), and `textLineFrom` reads them one after another
(`textLineFrom_print`).
-/

namespace StoryPlayer.Script

open Text (isBlank IsTrimmed trim lines dropReturn)

/-- Whether a character is doubled in a text. -/
def isDoubled (c : Char) : Bool := c = '[' || c = ']' || c = '@'

/-- A text as it stands in a script. -/
def escape (s : List Char) : List Char := s.flatMap fun c => if isDoubled c then [c, c] else [c]

def Label.print (l : Label) : List Char := '*' :: (l.label.toList ++ '|' :: l.heading.toList)

/-- A tag in brackets, or behind `@` if it cannot stand in brackets. -/
def Tag.print (t : Tag) : List Char :=
  if t.isInline then '[' :: (t.body ++ [']']) else '@' :: t.body

def Token.print : Token → List Char
  | .label l => l.print
  | .tag t => t.print
  | .text s => escape s.toList

/-- Whether a token has to share the line of the token before it. -/
def joins : Token → Token → Bool
  | .text s, .tag _ => leansForward s.toList
  | .tag t, .text s => t.isInline && leansBack s.toList
  | _, _ => false

/-- Tokens on one line. -/
def printLine (ts : List Token) : List Char := ts.flatMap Token.print

theorem printLine_cons (t : Token) (rest : List Token) :
    printLine (t :: rest) = t.print ++ printLine rest := List.flatMap_cons

/-- Tokens as a script. -/
def print (ts : List Token) : String :=
  String.ofList (((ts.splitBy joins).map printLine).flatMap (· ++ ['\n']))

/-! ## Reading one token -/

theorem textLineFrom_plain {c : Char} (h : isDoubled c = false) (text rest : List Char) :
    textLineFrom text (c :: rest) = textLineFrom (c :: text) rest := by
  simp only [isDoubled, Bool.or_eq_false_iff, decide_eq_false_iff_not] at h
  obtain ⟨⟨h1, h2⟩, h3⟩ := h
  rw [textLineFrom]
  -- No other equation is about such a character.
  all_goals simp_all

theorem textLineFrom_double {c : Char} (h : isDoubled c = true) (text rest : List Char) :
    textLineFrom text (c :: c :: rest) = textLineFrom (c :: text) rest := by
  simp only [isDoubled, Bool.or_eq_true, decide_eq_true_eq] at h
  rcases h with (rfl | rfl) | rfl
  · rw [textLineFrom]
  · rw [textLineFrom]
  · rw [textLineFrom]

/-- An escaped text is read as it was. -/
theorem textLineFrom_escape (s text rest : List Char) :
    textLineFrom text (escape s ++ rest) = textLineFrom (s.reverse ++ text) rest := by
  induction s generalizing text with
  | nil => rfl
  | cons c s ih =>
    rw [escape, List.flatMap_cons, List.append_assoc, List.reverse_cons, List.append_assoc,
      List.singleton_append]
    split
    · next hc => exact (textLineFrom_double hc text _).trans (ih (c :: text))
    · next hc =>
      exact (textLineFrom_plain (Bool.not_eq_true _ ▸ hc) text _).trans (ih (c :: text))

/-- A body in brackets is read as a tag, and then the rest of the line. -/
theorem textLineFrom_bracket {body : List Char} (hb : ']' ∉ body) (hh : body.head? ≠ some '[')
    (text rest : List Char) :
    textLineFrom text ('[' :: (body ++ ']' :: rest)) = do
      let tag ← Tag.ofBody body
      let tokens ← textLineFrom [] rest
      return textToken text ++ .tag tag :: tokens := by
  have hd : (body ++ ']' :: rest).dropWhile (· ≠ ']') = ']' :: rest :=
    Text.dropWhile_ne_append hb rest
  rw [textLineFrom]
  · split
    · next he => rw [hd] at he; cases he
    · next he =>
      rw [hd] at he
      cases he
      rw [Text.takeWhile_ne_append hb]
  · intro more he
    cases body with
    | nil => cases he
    | cons c body => exact hh (congrArg some (List.cons.inj he).1)

/-- A body behind `@` is read to the end of the line. -/
theorem textLineFrom_at {body : List Char} (hh : body.head? ≠ some '@') (text : List Char) :
    textLineFrom text ('@' :: body) = do
      let tag ← Tag.ofBody body
      return textToken text ++ [.tag tag] := by
  rw [textLineFrom]
  rintro more rfl
  exact hh rfl

theorem body_eq_cons (t : Tag) : ∃ rest, t.body = '"' :: rest := ⟨_, rfl⟩

theorem mem_body {t : Tag} {c : Char} (h : c ∈ t.body) :
    c = '"' ∨ c = ' ' ∨ c = '=' ∨ ∃ s ∈ t.texts, c ∈ s.toList := by
  simp only [Tag.body, quote, entryWord, List.mem_append, List.mem_cons, List.mem_flatMap,
    List.not_mem_nil, or_false] at h
  simp only [Tag.mem_texts]
  grind

theorem not_mem_body {t : Tag} (h : t.isInline) : ']' ∉ t.body := by
  intro hc
  rw [Tag.isInline, List.all_eq_true] at h
  rcases mem_body hc with he | he | he | ⟨s, hs, hc⟩
  · exact absurd he (by decide)
  · exact absurd he (by decide)
  · exact absurd he (by decide)
  · exact of_decide_eq_true (h s hs) hc

/-- A tag in brackets is read, and then the rest of the line. -/
theorem textLineFrom_inline {t : Tag} (ht : t.IsExpressible) (hi : t.isInline)
    {text rest : List Char} {ts : List Token} (h : textLineFrom [] rest = .ok ts) :
    textLineFrom text (t.print ++ rest) = .ok (textToken text ++ .tag t :: ts) := by
  obtain ⟨tail, htail⟩ := body_eq_cons t
  rw [Tag.print, if_pos hi, List.cons_append, List.append_assoc, List.singleton_append,
    textLineFrom_bracket (not_mem_body hi) (by simp [htail]), ofBody_body ht, h]
  rfl

/-- A tag behind `@` is read to the end of the line. -/
theorem textLineFrom_lineTag {t : Tag} (ht : t.IsExpressible) (hi : ¬t.isInline)
    (text : List Char) : textLineFrom text t.print = .ok (textToken text ++ [.tag t]) := by
  obtain ⟨tail, htail⟩ := body_eq_cons t
  rw [Tag.print, if_neg hi, textLineFrom_at (by simp [htail]), ofBody_body ht]
  rfl

/-! ## Reading a line -/

theorem joins_label (t : Token) (l : Label) : joins t (.label l) = false := by
  cases t <;> rfl

theorem not_label_of_isChain {t : Token} {rest : List Token}
    (h : (t :: rest).IsChain fun a b => joins a b) (l : Label) : .label l ∉ rest := by
  induction rest generalizing t with
  | nil => exact List.not_mem_nil
  | cons u rest ih =>
    obtain ⟨hj, hrest⟩ := List.isChain_cons_cons.mp h
    intro hm
    rcases List.mem_cons.mp hm with rfl | hm
    · rw [joins_label] at hj
      cases hj
    · exact ih hrest hm

theorem textToken_reverse {s : String} (h : s ≠ "") : textToken s.toList.reverse = [.text s] := by
  rw [textToken, if_neg (by simpa using h), List.reverse_reverse, String.ofList_toList]

/-- Tokens that are joined on one line are read one after another. -/
theorem textLineFrom_print {ts : List Token} {before : Option Token} (hfit : FitAfter before ts)
    (hchain : ts.IsChain fun a b => joins a b) (hl : ∀ l, .label l ∉ ts) {text : List Char}
    (htext : text = [] ∨ ∀ s, ts.head? ≠ some (.text s)) :
    textLineFrom text (printLine ts) = .ok (textToken text ++ ts) := by
  induction ts generalizing before text with
  | nil => rw [List.append_nil, printLine, List.flatMap_nil, textLineFrom]
  | cons t rest ih =>
    have hrest : ∀ l, .label l ∉ rest := fun l hm => hl l (List.mem_cons_of_mem t hm)
    have hcrest := hchain.of_cons
    rw [printLine_cons]
    cases t with
    | label l => exact absurd List.mem_cons_self (hl l)
    | tag t =>
      by_cases hi : t.isInline
      · exact textLineFrom_inline hfit.1 hi (ih hfit.2 hcrest hrest (Or.inl rfl))
      · cases rest with
        | nil =>
          rw [printLine, List.flatMap_nil, List.append_nil]
          exact textLineFrom_lineTag hfit.1 hi text
        | cons u rest =>
          -- only a text can share the line of a tag before it, and the tag is in brackets then
          have hj := (List.isChain_cons_cons.mp hchain).1
          cases u <;> simp [joins, hi] at hj
    | text s =>
      have hnil : text = [] := htext.resolve_right fun h => h s rfl
      subst hnil
      change textLineFrom [] (escape s.toList ++ printLine rest) = _
      rw [textLineFrom_escape, List.append_nil, ih hfit.2 hcrest hrest (Or.inr ?_),
        textToken_reverse hfit.1.1]
      · rfl
      · intro s' hs'
        cases rest with
        | nil => cases hs'
        | cons u rest =>
          have hj := (List.isChain_cons_cons.mp hchain).1
          cases hs'
          cases hj

/-! ## Both ends of a line -/

theorem head?_escape (s : List Char) : (escape s).head? = s.head? := by
  cases s with
  | nil => rfl
  | cons c s =>
    rw [escape, List.flatMap_cons]
    split <;> rfl

theorem getLast?_escape (s : List Char) : (escape s).getLast? = s.getLast? := by
  rcases s.eq_nil_or_concat' with rfl | ⟨init, c, rfl⟩
  · rfl
  · rw [escape, List.flatMap_append, List.flatMap_singleton, List.getLast?_concat,
      List.getLast?_append]
    split <;> rfl

theorem getLast?_quote (front word : List Char) : (front ++ quote word).getLast? = some '"' := by
  rw [quote, ← List.cons_append, ← List.append_assoc, List.getLast?_concat]

theorem getLast?_body (t : Tag) : t.body.getLast? = some '"' := by
  rw [Tag.body]
  rcases t.attributes.entries.eq_nil_or_concat' with he | ⟨init, e, he⟩
  · rw [he, List.flatMap_nil, List.append_nil]
    exact getLast?_quote [] _
  · rw [he, List.flatMap_append, List.flatMap_singleton, ← List.append_assoc, List.append_cons]
    exact getLast?_quote _ _

theorem print_ne_nil {t : Token} {before after : Option Token} (h : t.Fits before after) :
    t.print ≠ [] := by
  cases t with
  | label l => exact List.cons_ne_nil _ _
  | tag t =>
    rw [Token.print, Tag.print]
    split <;> exact List.cons_ne_nil _ _
  | text s =>
    intro he
    have hhead := head?_escape s.toList
    rw [show escape s.toList = [] from he] at hhead
    exact h.1 (by simpa using hhead.symm)

/-- The first character of a token that can begin a line. -/
theorem head?_print {t : Token} {after : Option Token} (h : t.Fits none after) {c : Char}
    (hc : c ∈ t.print.head?) : isBlank c = false ∧ c ≠ ';' := by
  cases t with
  | label l =>
    cases hc
    decide
  | tag t =>
    rw [Token.print, Tag.print] at hc
    split at hc
    · cases hc
      decide
    · cases hc
      decide
  | text s =>
    have hl := h.not_leansBack
    have hcs : s.toList.head? = some c := by
      rw [← head?_escape]
      exact hc
    rw [leansBack, hcs, Option.any_some] at hl
    simp only [Bool.or_eq_false_iff, decide_eq_false_iff_not] at hl
    exact ⟨hl.1.1, hl.1.2⟩

/-- The last character of a token that can end a line. -/
theorem getLast?_print {t : Token} {before : Option Token} (h : t.Fits before none) {c : Char}
    (hc : c ∈ t.print.getLast?) : isBlank c = false := by
  cases t with
  | label l =>
    have hne : l.heading.toList ≠ [] := fun he => h.heading_title.1 (by simpa using he)
    have hlast : l.print.getLast? = l.heading.toList.getLast? := by
      obtain ⟨d, rest, hd⟩ := List.exists_cons_of_ne_nil hne
      rw [Label.print, hd, ← List.cons_append, List.getLast?_append, List.getLast?_cons_cons]
      rfl
    exact h.heading_title.2.1.2 c (hlast ▸ hc)
  | tag t =>
    rw [Token.print, Tag.print] at hc
    split at hc
    · rw [← List.cons_append, List.getLast?_concat] at hc
      cases hc
      decide
    · obtain ⟨rest, hb⟩ := body_eq_cons t
      have hlast := getLast?_body t
      rw [hb] at hc hlast
      rw [List.getLast?_cons_cons, hlast] at hc
      cases hc
      decide
  | text s =>
    exact (Option.any_eq_false _ _).mp h.not_leansForward c (by rw [← getLast?_escape]; exact hc)

theorem printLine_ne_nil {ts : List Token} {before : Option Token} (hne : ts ≠ [])
    (h : FitAfter before ts) : printLine ts ≠ [] := by
  cases ts with
  | nil => exact absurd rfl hne
  | cons t rest =>
    rw [printLine_cons]
    exact List.append_ne_nil_of_left_ne_nil (print_ne_nil h.1) _

theorem getLast?_printLine {ts : List Token} {before : Option Token} (h : FitAfter before ts)
    {c : Char} (hc : c ∈ (printLine ts).getLast?) : isBlank c = false := by
  induction ts generalizing before with
  | nil => cases hc
  | cons t rest ih =>
    cases rest with
    | nil =>
      rw [printLine, List.flatMap_singleton] at hc
      exact getLast?_print h.1 hc
    | cons u rest =>
      rw [printLine_cons, List.getLast?_append_of_ne_nil _
        (printLine_ne_nil (List.cons_ne_nil u rest) h.2)] at hc
      exact ih h.2 hc

theorem isTrimmed_printLine {ts : List Token} (h : FitAfter none ts) :
    IsTrimmed (printLine ts) := by
  refine ⟨fun c hc => ?_, fun c hc => getLast?_printLine h hc⟩
  cases ts with
  | nil => cases hc
  | cons t rest =>
    rw [printLine_cons, List.head?_append_of_ne_nil _ (print_ne_nil h.1)] at hc
    exact (head?_print h.1 hc).1

/-! ## Reading what was written -/

theorem ofLine_print {l : Label} (h : l.IsExpressible) :
    Label.ofLine (l.label.toList ++ '|' :: l.heading.toList) = .ok l := by
  have hlabel : l.label.toList ≠ [] := fun he => h.label_title.1 (by simpa using he)
  have hheading : l.heading.toList ≠ [] := fun he => h.heading_title.1 (by simpa using he)
  rw [Label.ofLine, Text.takeWhile_ne_append h.label_plain, Text.dropWhile_ne_append h.label_plain,
    List.drop_one, List.tail_cons, Text.trim_eq_self h.label_title.2.1,
    Text.trim_eq_self h.heading_title.2.1, if_neg (by simpa using hlabel),
    if_neg (by simpa using hheading), String.ofList_toList, String.ofList_toList]

/-- A line is a text line unless it begins with `*` or a lone `@`. -/
theorem significantTokens_eq_textLine {c : Char} {rest : List Char} (hstar : c ≠ '*')
    (hat : c = '@' → rest.head? = some '@') : significantTokens (c :: rest) = textLine (c :: rest) := by
  unfold significantTokens
  split
  · next he => exact absurd (List.cons.inj he).1 hstar
  · next he => rw [he]
  · next hne he =>
    obtain ⟨rfl, rfl⟩ := List.cons.inj he
    obtain ⟨more, rfl⟩ := List.head?_eq_some_iff.mp (hat rfl)
    exact absurd rfl (hne more)
  · rfl

/-- A written text begins a text line. -/
theorem significantTokens_escape {s : String} (hne : s ≠ "") (hl : leansBack s.toList = false)
    (rest : List Char) :
    significantTokens (escape s.toList ++ rest) = textLine (escape s.toList ++ rest) := by
  obtain ⟨c, tail, hs⟩ := List.exists_cons_of_ne_nil (l := s.toList) (by simpa using hne)
  rw [hs, leansBack, List.head?_cons, Option.any_some] at hl
  simp only [Bool.or_eq_false_iff, decide_eq_false_iff_not] at hl
  rw [hs, escape, List.flatMap_cons, List.append_assoc]
  split
  · exact significantTokens_eq_textLine hl.2 fun hc => congrArg some hc
  · next hd => exact significantTokens_eq_textLine hl.2 fun hc => absurd (hc ▸ rfl) hd

/-- **A line that was written is read back.** -/
theorem lineTokens_printLine {ts : List Token} (hne : ts ≠ []) (hfit : FitAfter none ts)
    (hchain : ts.IsChain fun a b => joins a b) : lineTokens (printLine ts) = .ok ts := by
  obtain ⟨t, rest, rfl⟩ := List.exists_cons_of_ne_nil hne
  have hsig : isSignificant (printLine (t :: rest)) := by
    have hline := printLine_ne_nil hne hfit
    rw [isSignificant, Bool.and_eq_true, decide_eq_true_eq]
    refine ⟨by simpa using hline, fun hc => ?_⟩
    rw [printLine_cons, List.head?_append_of_ne_nil _ (print_ne_nil hfit.1)] at hc
    exact (head?_print hfit.1 hc).2 rfl
  rw [lineTokens, Text.trim_eq_self (isTrimmed_printLine hfit), if_pos hsig]
  have htextLine : (∀ l, t ≠ .label l) →
      textLine (printLine (t :: rest)) = .ok (t :: rest) := by
    intro hlabel
    refine textLineFrom_print hfit hchain (fun l hm => ?_) (Or.inl rfl)
    rcases List.mem_cons.mp hm with he | hm
    · exact hlabel l he.symm
    · exact not_label_of_isChain hchain l hm
  cases t with
  | label l =>
    cases rest with
    | nil =>
      rw [printLine_cons, printLine, List.flatMap_nil, List.append_nil]
      change (do return [Token.label (← Label.ofLine _)]) = _
      rw [ofLine_print hfit.1]
      rfl
    | cons u rest => cases (List.isChain_cons_cons.mp hchain).1
  | tag t =>
    by_cases hi : t.isInline
    · refine Eq.trans ?_ (htextLine fun l => Token.noConfusion)
      rw [printLine_cons, Token.print, Tag.print, if_pos hi]
      exact significantTokens_eq_textLine (by decide) fun hc => absurd hc (by decide)
    · cases rest with
      | nil =>
        obtain ⟨tail, hb⟩ := body_eq_cons t
        have ht := ofBody_body hfit.1
        rw [printLine_cons, printLine, List.flatMap_nil, List.append_nil, Token.print, Tag.print,
          if_neg hi]
        rw [hb] at ht ⊢
        change (do return [Token.tag (← Tag.ofBody _)]) = _
        rw [ht]
        rfl
      | cons u rest =>
        have hj := (List.isChain_cons_cons.mp hchain).1
        cases u <;> simp [joins, hi] at hj
  | text s =>
    refine Eq.trans ?_ (htextLine fun l => Token.noConfusion)
    exact significantTokens_escape hfit.1.1 hfit.1.not_leansBack _

/-! ## Dividing tokens into lines -/

theorem Token.Fits.after_none {t u : Token} {before : Option Token}
    (h : t.Fits before (some u)) (hj : joins t u = false) : t.Fits before none := by
  cases t with
  | label l => exact h
  | tag t => exact h
  | text s =>
    refine ⟨h.1, h.2.1, h.2.2.1, fun hl => ?_⟩
    have htag : u.isTag := h.2.2.2 hl
    cases u with
    | label l => cases htag
    | tag t => rw [joins, hl] at hj; cases hj
    | text s => cases htag

theorem Token.Fits.before_none {t u : Token} {after : Option Token}
    (h : u.Fits (some t) after) (hj : joins t u = false) : u.Fits none after := by
  cases u with
  | label l => exact h
  | tag t => exact h
  | text s =>
    refine ⟨h.1, h.2.1, fun hl => ?_, h.2.2.2⟩
    have hin : t.isInline := h.2.2.1 hl
    cases t with
    | label l => cases hin
    | tag t => rw [joins, hl, Bool.and_true, show t.isInline = true from hin] at hj; cases hj
    | text s => cases hin

/-- Where two tokens are not joined, a list can be cut. -/
theorem FitAfter.cut {before : Option Token} {ts us : List Token} (h : FitAfter before (ts ++ us))
    (hne : ts ≠ []) (hj : ∀ t ∈ ts.getLast?, ∀ u ∈ us.head?, joins t u = false) :
    FitAfter before ts ∧ FitAfter none us := by
  induction ts generalizing before with
  | nil => exact absurd rfl hne
  | cons t rest ih =>
    cases rest with
    | nil =>
      cases us with
      | nil => exact ⟨⟨h.1, trivial⟩, trivial⟩
      | cons u us =>
        have htu := hj t rfl u rfl
        exact ⟨⟨h.1.after_none htu, trivial⟩, h.2.1.before_none htu, h.2.2⟩
    | cons t' rest =>
      have hcut := ih h.2 (List.cons_ne_nil t' rest) fun a ha => hj a (by simpa using ha)
      exact ⟨⟨h.1, hcut.1⟩, hcut.2⟩

theorem fitAfter_of_mem {gs : List (List Token)} (hne : [] ∉ gs)
    (hcut : gs.IsChain fun a b => ∃ ha hb, joins (a.getLast ha) (b.head hb) = false)
    (h : FitAfter none gs.flatten) : ∀ g ∈ gs, FitAfter none g := by
  induction gs with
  | nil =>
    intro g hg
    cases hg
  | cons g gs ih =>
    rw [List.mem_cons, not_or] at hne
    have hj : ∀ t ∈ g.getLast?, ∀ u ∈ gs.flatten.head?, joins t u = false := by
      intro t ht u hu
      cases gs with
      | nil => cases hu
      | cons g' gs =>
        obtain ⟨ha, hb, hjoin⟩ := (List.isChain_cons_cons.mp hcut).1
        rw [List.flatten_cons, List.head?_append_of_ne_nil _ hb, List.head?_eq_some_head hb] at hu
        rw [List.getLast?_eq_some_getLast ha] at ht
        cases hu
        cases ht
        exact hjoin
    obtain ⟨hg, hrest⟩ := FitAfter.cut h (Ne.symm hne.1) hj
    intro g' hg'
    rcases List.mem_cons.mp hg' with rfl | hg'
    · exact hg
    · exact ih hne.2 hcut.of_cons hrest g' hg'

/-- The tokens that `print` puts on one line lean on nothing outside of it. -/
theorem fitAfter_of_mem_splitBy {ts : List Token} (h : Expressible ts) :
    ∀ g ∈ ts.splitBy joins, FitAfter none g := by
  refine fitAfter_of_mem (List.nil_notMem_splitBy joins ts)
    (List.isChain_getLast_head_splitBy joins ts) ?_
  rw [List.flatten_splitBy]
  exact h

/-! ## Reading a script that was written -/

theorem newline_not_mem_escape {s : List Char} (h : '\n' ∉ s) : '\n' ∉ escape s := by
  intro hm
  obtain ⟨c, hc, hm⟩ := List.mem_flatMap.mp hm
  refine h ?_
  split at hm
  · rcases List.mem_cons.mp hm with rfl | hm
    · exact hc
    · exact List.mem_singleton.mp hm ▸ hc
  · exact List.mem_singleton.mp hm ▸ hc

theorem newline_not_mem_print {t : Token} {before after : Option Token}
    (h : t.Fits before after) : '\n' ∉ t.print := by
  cases t with
  | label l => simp [Token.print, Label.print, h.label_title.2.2, h.heading_title.2.2]
  | tag t =>
    have hb : '\n' ∉ t.body := by
      intro hc
      rcases mem_body hc with he | he | he | ⟨s, hs, hc⟩
      · exact absurd he (by decide)
      · exact absurd he (by decide)
      · exact absurd he (by decide)
      · exact (h.texts_plain s hs).2 hc
    rw [Token.print, Tag.print]
    split
    · simpa using hb
    · simpa using hb
  | text s => exact newline_not_mem_escape h.2.1

theorem newline_not_mem_printLine {ts : List Token} {before : Option Token}
    (h : FitAfter before ts) : '\n' ∉ printLine ts := by
  induction ts generalizing before with
  | nil => exact List.not_mem_nil
  | cons t rest ih =>
    rw [printLine_cons, List.mem_append, not_or]
    exact ⟨newline_not_mem_print h.1, ih h.2⟩

theorem tokensFrom_map {gs : List (List Token)} {f : List Token → List Char}
    (h : ∀ g ∈ gs, lineTokens (f g) = .ok g) (number : Nat) :
    tokensFrom number (gs.map f) = .ok gs.flatten := by
  induction gs generalizing number with
  | nil => rfl
  | cons g gs ih =>
    rw [List.map_cons, tokensFrom, h g List.mem_cons_self,
      ih (fun a ha => h a (List.mem_cons_of_mem g ha))]
    rfl

/-- **Tokens that can be written are read back.** -/
theorem parse_print {ts : List Token} (h : Expressible ts) : parse (print ts) = .ok ts := by
  have hfit := fitAfter_of_mem_splitBy h
  have hlines : ∀ line ∈ (ts.splitBy joins).map printLine, '\n' ∉ line := by
    intro line hline
    obtain ⟨g, hg, rfl⟩ := List.mem_map.mp hline
    exact newline_not_mem_printLine (hfit g hg)
  have hread : ∀ g ∈ ts.splitBy joins, lineTokens (dropReturn (printLine g)) = .ok g := by
    intro g hg
    rw [lineTokens, Text.trim_dropReturn, ← lineTokens]
    exact lineTokens_printLine (List.ne_nil_of_mem_splitBy hg) (hfit g hg)
      (List.isChain_of_mem_splitBy hg)
  rw [parse, print, String.toList_ofList, Text.lines_flatMap hlines, List.map_map]
  exact (tokensFrom_map hread 1).trans (congrArg Except.ok (List.flatten_splitBy joins ts))

example : print [.text "see ", .tag (.named "lr"), .text " me@home", .text "here"] =
    "see [\"lr\"] me@@home\nhere\n" := by decide

/-- **The tokens that scripts have are exactly the expressible lists**, and each of these is what its
written form is read as. -/
theorem exists_parse_iff_expressible (ts : List Token) :
    ((∃ s, parse s = .ok ts) ↔ Expressible ts) ∧ (Expressible ts ↔ parse (print ts) = .ok ts) :=
  ⟨⟨fun ⟨_, h⟩ => expressible_of_parse h, fun h => ⟨print ts, parse_print h⟩⟩,
    parse_print, expressible_of_parse⟩

end StoryPlayer.Script
