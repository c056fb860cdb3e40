import Mathlib.Data.List.Chain
import StoryPlayer.Json.Document
import StoryPlayer.Json.Lexeme

/-!
# How lexemes are written

What JSON lets stand for each lexeme, said without the reader: a string is a sequence of pieces, a
number is put together from its parts, and any blanks may stand between two lexemes.  The reader finds
the lexemes again (`lexemes?_of_spellsAll`).  Only a number could run into what follows it, so this is
asked of the lexemes that follow one (`Separate`).

* `Lexeme.Spells`: the texts of one lexeme.
* `SpellsAll`: the texts of some lexemes.
* `spells_quote`: a string as it is written out is one of its texts.
-/

namespace StoryPlayer.Json

/-! ## Strings -/

/-- A part of a string as it is written: a character as it is, a backslash and a letter, or a
backslash, the letter `u` and four hexadecimal digits. -/
inductive Piece where
  | plain (c : Char) (hc : 0x20 ≤ c.toNat ∧ c ≠ '"' ∧ c ≠ '\\')
  | short (letter meaning : Char) (hm : shortEscape? letter = some meaning)
  | numbered (a b c d : Char) (n : Nat) (hn : hex4? a b c d = some n)

def Piece.chars : Piece → List Char
  | .plain c _ => [c]
  | .short letter _ _ => ['\\', letter]
  | .numbered a b c d _ _ => ['\\', 'u', a, b, c, d]

/-- The code point that a piece stands for. -/
def Piece.code : Piece → Nat
  | .plain c _ => c.toNat
  | .short _ meaning _ => meaning.toNat
  | .numbered _ _ _ _ n _ => n

/-- The text of a string that is written in these pieces. -/
def stringText (pieces : List Piece) : List Char := '"' :: (pieces.flatMap Piece.chars ++ ['"'])

/-- What it means; nothing if half of a surrogate pair stands alone in it. -/
def stringMeaning (pieces : List Piece) : Option String :=
  (ofCodePoints (pieces.map Piece.code)).map String.ofList

theorem codePoints_piece (p : Piece) (rest : List Char) :
    codePoints (p.chars ++ rest) =
      (codePoints rest).map fun (ns, after) => (p.code :: ns, after) := by
  cases p with
  | plain c hc =>
    obtain ⟨hc₁, hc₂, hc₃⟩ := hc
    show codePoints (c :: rest) = _
    rw [codePoints]
    · have hlow : ¬ (decide (c.toNat < 0x20) || decide (c = '\\')) = true := by
        simp only [Bool.or_eq_true, decide_eq_true_eq, not_or]
        exact ⟨by omega, hc₃⟩
      rw [if_neg hlow]
      cases codePoints rest with
      | none => rfl
      | some r => rfl
    · exact hc₂
    · intro _ _ _ _ _ h
      exact absurd h hc₃
    · intro _ _ h
      exact absurd h hc₃
  | short letter meaning hm =>
    show codePoints ('\\' :: letter :: rest) = _
    rw [codePoints, hm]
    · cases codePoints rest with
      | none => rfl
      | some r => rfl
    · -- No letter of an escape is `u`.
      intro _ _ _ _ _ h
      rw [h] at hm
      cases hm
  | numbered a b c d n hn =>
    show codePoints ('\\' :: 'u' :: a :: b :: c :: d :: rest) = _
    rw [codePoints, hn]
    cases codePoints rest with
    | none => rfl
    | some r => rfl

theorem codePoints_pieces (pieces : List Piece) (rest : List Char) :
    codePoints (pieces.flatMap Piece.chars ++ '"' :: rest) =
      some (pieces.map Piece.code, rest) := by
  induction pieces with
  | nil => rfl
  | cons p pieces ih =>
    rw [List.flatMap_cons, List.append_assoc, codePoints_piece, ih]
    rfl

/-! ### Strings as they are written out -/

theorem hex4?_hexDigit : ∀ n < 0x20, hex4? '0' '0' (hexDigit (n / 16)) (hexDigit (n % 16)) = some n := by
  decide

/-- Each character is written as one piece. -/
theorem exists_piece (c : Char) : ∃ p : Piece, p.chars = escape c ∧ p.code = c.toNat := by
  by_cases hshort : ∃ letter, shortEscape? letter = some c ∧ escape c = ['\\', letter]
  · obtain ⟨letter, hm, he⟩ := hshort
    exact ⟨.short letter c hm, he.symm, rfl⟩
  · have hne (d letter : Char) (hm : shortEscape? letter = some d) (he : escape d = ['\\', letter]) :
        c ≠ d := by
      rintro rfl
      exact hshort ⟨letter, hm, he⟩
    have h₁ := hne '"' '"' rfl rfl
    have h₂ := hne '\\' '\\' rfl rfl
    have h₃ := hne '\x08' 'b' rfl rfl
    have h₄ := hne '\x0c' 'f' rfl rfl
    have h₅ := hne '\n' 'n' rfl rfl
    have h₆ := hne '\r' 'r' rfl rfl
    have h₇ := hne '\t' 't' rfl rfl
    simp only [escape, h₁, h₂, h₃, h₄, h₅, h₆, h₇, if_false]
    by_cases hlow : c.toNat < 0x20
    · rw [if_pos hlow]
      exact ⟨.numbered _ _ _ _ c.toNat (hex4?_hexDigit c.toNat hlow), rfl, rfl⟩
    · rw [if_neg hlow]
      exact ⟨.plain c ⟨by omega, h₁, h₂⟩, rfl, rfl⟩

theorem exists_pieces (cs : List Char) :
    ∃ pieces : List Piece, pieces.flatMap Piece.chars = cs.flatMap escape ∧
      pieces.map Piece.code = cs.map Char.toNat := by
  induction cs with
  | nil => exact ⟨[], rfl, rfl⟩
  | cons c cs ih =>
    obtain ⟨p, hchars, hcode⟩ := exists_piece c
    obtain ⟨pieces, hall, hcodes⟩ := ih
    refine ⟨p :: pieces, ?_, ?_⟩
    · rw [List.flatMap_cons, List.flatMap_cons, hchars, hall]
    · rw [List.map_cons, List.map_cons, hcode, hcodes]

theorem ofCodePoints_toNat (cs : List Char) : ofCodePoints (cs.map Char.toNat) = some cs := by
  induction cs with
  | nil => rfl
  | cons c cs ih =>
    obtain ⟨hhigh, hlow⟩ := Utf16.not_isSurrogate_toNat c
    cases cs with
    | nil => simp [ofCodePoints, hhigh, hlow]
    | cons d cs =>
      rw [List.map_cons] at ih
      rw [List.map_cons, List.map_cons, ofCodePoints, hhigh, hlow, ih]
      simp

/-! ## Numbers -/

/-- One or more decimal digits. -/
def IsDigits (cs : List Char) : Prop := cs ≠ [] ∧ ∀ c ∈ cs, c.isDigit = true

/-- Zero, or digits that begin with another one. -/
def IsInteger (cs : List Char) : Prop := cs = ['0'] ∨ IsDigits cs ∧ cs.head? ≠ some '0'

/-- A point and digits, or nothing. -/
def IsFraction (cs : List Char) : Prop := cs = [] ∨ ∃ digits, IsDigits digits ∧ cs = '.' :: digits

/-- The letter `e`, a sign that may be left out and digits, or nothing. -/
def IsExponent (cs : List Char) : Prop :=
  cs = [] ∨ ∃ e sign digits, (e = 'e' ∨ e = 'E') ∧ (sign = [] ∨ sign = ['+'] ∨ sign = ['-']) ∧
    IsDigits digits ∧ cs = e :: (sign ++ digits)

def IsNumber (cs : List Char) : Prop :=
  ∃ sign integer fraction exponent, (sign = [] ∨ sign = ['-']) ∧ IsInteger integer ∧
    IsFraction fraction ∧ IsExponent exponent ∧ cs = sign ++ integer ++ fraction ++ exponent

/-- Whether a character could go on with a number. -/
def goesOn (c : Char) : Bool := c.isDigit || c = '.' || c = 'e' || c = 'E'

/-- A text that goes on with no number that ends before it. -/
def Ends (rest : List Char) : Prop := ∀ c ∈ rest.head?, goesOn c = false

theorem afterDigits?_append {digits rest : List Char} (h : IsDigits digits)
    (hr : ∀ c ∈ rest.head?, c.isDigit = false) : afterDigits? (digits ++ rest) = some rest := by
  obtain ⟨hne, hall⟩ := h
  cases digits with
  | nil => exact absurd rfl hne
  | cons d digits =>
    have hd : d.isDigit = true := hall d List.mem_cons_self
    have hrest : rest.dropWhile Char.isDigit = rest := by
      cases rest with
      | nil => rfl
      | cons c rest => rw [List.dropWhile_cons, hr c rfl]; rfl
    rw [List.cons_append, afterDigits?, if_pos hd,
      List.dropWhile_append_of_pos fun c hc => hall c (List.mem_cons_of_mem d hc), hrest]

theorem afterInteger?_append {integer rest : List Char} (h : IsInteger integer)
    (hr : ∀ c ∈ rest.head?, c.isDigit = false) : afterInteger? (integer ++ rest) = some rest := by
  rcases h with rfl | ⟨hdigits, hzero⟩
  · rfl
  · cases integer with
    | nil => exact absurd rfl hdigits.1
    | cons d integer =>
      rw [List.cons_append, afterInteger?, ← List.cons_append]
      · exact afterDigits?_append hdigits hr
      · rintro _ ⟨⟩
        exact hzero rfl

theorem afterFraction?_append {fraction rest : List Char} (h : IsFraction fraction)
    (hr : ∀ c ∈ rest.head?, c.isDigit = false ∧ c ≠ '.') :
    afterFraction? (fraction ++ rest) = some rest := by
  rcases h with rfl | ⟨digits, hdigits, rfl⟩
  · rw [List.nil_append, afterFraction?]
    rintro cs rfl
    exact (hr '.' rfl).2 rfl
  · exact afterDigits?_append hdigits fun c hc => (hr c hc).1

theorem dropSign_append {sign digits : List Char}
    (hs : sign = [] ∨ sign = ['+'] ∨ sign = ['-']) (h : IsDigits digits) (rest : List Char) :
    dropSign (sign ++ (digits ++ rest)) = digits ++ rest := by
  rcases hs with rfl | rfl | rfl
  · cases digits with
    | nil => exact absurd rfl h.1
    | cons d digits =>
      have hd : d.isDigit = true := h.2 d List.mem_cons_self
      rw [List.nil_append, List.cons_append, dropSign]
      · rintro _ ⟨⟩
        cases hd
      · rintro _ ⟨⟩
        cases hd
  · rfl
  · rfl

theorem afterExponent?_append {exponent rest : List Char} (h : IsExponent exponent)
    (hr : Ends rest) : afterExponent? (exponent ++ rest) = some rest := by
  have hdigit : ∀ c ∈ rest.head?, c.isDigit = false := by
    intro c hc
    have hgoes := hr c hc
    simp only [goesOn, Bool.or_eq_false_iff] at hgoes
    exact hgoes.1.1.1
  rcases h with rfl | ⟨e, sign, digits, he, hsign, hdigits, rfl⟩
  · rw [List.nil_append, afterExponent?]
    · rintro cs rfl
      cases hr 'e' rfl
    · rintro cs rfl
      cases hr 'E' rfl
  · have hexponent : afterExponent? (e :: (sign ++ (digits ++ rest))) =
        afterDigits? (dropSign (sign ++ (digits ++ rest))) := by
      rcases he with rfl | rfl
      · rfl
      · rfl
    rw [List.cons_append, List.append_assoc, hexponent, dropSign_append hsign hdigits,
      afterDigits?_append hdigits hdigit]

/-- What stands in front of an exponent does not run into it. -/
theorem head?_exponent {exponent rest : List Char} (h : IsExponent exponent) (hr : Ends rest) :
    ∀ c ∈ (exponent ++ rest).head?, c.isDigit = false ∧ c ≠ '.' := by
  intro c hc
  rcases h with rfl | ⟨e, sign, digits, he, -, -, rfl⟩
  · have hgoes := hr c hc
    simp only [goesOn, Bool.or_eq_false_iff, decide_eq_false_iff_not] at hgoes
    exact ⟨hgoes.1.1.1, hgoes.1.1.2⟩
  · cases hc
    rcases he with rfl | rfl
    · exact ⟨rfl, by decide⟩
    · exact ⟨rfl, by decide⟩

theorem head?_fraction {fraction rest : List Char} (h : IsFraction fraction)
    (hr : ∀ c ∈ rest.head?, c.isDigit = false) :
    ∀ c ∈ (fraction ++ rest).head?, c.isDigit = false := by
  rcases h with rfl | ⟨digits, -, rfl⟩
  · exact hr
  · intro c hc
    cases hc
    rfl

/-- An integer begins with a digit. -/
theorem head?_integer {integer : List Char} (h : IsInteger integer) (rest : List Char) :
    ∃ d, (integer ++ rest).head? = some d ∧ d.isDigit = true := by
  rcases h with rfl | ⟨⟨hne, hall⟩, -⟩
  · exact ⟨'0', rfl, rfl⟩
  · cases integer with
    | nil => exact absurd rfl hne
    | cons d integer => exact ⟨d, rfl, hall d List.mem_cons_self⟩

theorem afterNumber?_append {cs rest : List Char} (h : IsNumber cs) (hr : Ends rest) :
    afterNumber? (cs ++ rest) = some rest := by
  obtain ⟨sign, integer, fraction, exponent, hsign, hinteger, hfraction, hexponent, rfl⟩ := h
  have hbehind := head?_exponent hexponent hr
  have hunsigned : (if (sign ++ (integer ++ (fraction ++ (exponent ++ rest)))).head? = some '-' then
      (sign ++ (integer ++ (fraction ++ (exponent ++ rest)))).tail
      else sign ++ (integer ++ (fraction ++ (exponent ++ rest)))) =
        integer ++ (fraction ++ (exponent ++ rest)) := by
    rcases hsign with rfl | rfl
    · obtain ⟨d, hhead, hd⟩ := head?_integer hinteger (fraction ++ (exponent ++ rest))
      rw [List.nil_append, if_neg]
      rw [hhead]
      rintro ⟨⟩
      cases hd
    · rfl
  have hint := afterInteger?_append hinteger
    (head?_fraction hfraction fun c hc => (hbehind c hc).1)
  rw [List.append_assoc, List.append_assoc, List.append_assoc, afterNumber?, hunsigned, hint,
    Option.bind_eq_bind, Option.bind_some, afterFraction?_append hfraction hbehind,
    Option.bind_some]
  exact afterExponent?_append hexponent hr

/-! ## Lexemes -/

/-- Whether a lexeme is punctuation. -/
def Lexeme.isMark : Lexeme → Bool
  | .openObject | .closeObject | .openList | .closeList | .comma | .colon => true
  | _ => false

/-- The texts of a lexeme. -/
inductive Lexeme.Spells : Lexeme → List Char → Prop
  | mark {c : Char} {l : Lexeme} (h : punctuation? c = some l) : Spells l [c]
  | word {w : List Char} {l : Lexeme} (h : (w, l) ∈ words) : Spells l w
  | number {cs : List Char} (h : IsNumber cs) : Spells .number cs
  | text (pieces : List Piece) : Spells (.text (stringMeaning pieces)) (stringText pieces)

/-- A string as it is written out is one of its texts. -/
theorem spells_quote (s : String) : (Lexeme.text (some s)).Spells (quote s) := by
  obtain ⟨pieces, hchars, hcodes⟩ := exists_pieces s.toList
  have hmeaning : stringMeaning pieces = some s := by
    rw [stringMeaning, hcodes, ofCodePoints_toNat, Option.map_some, String.ofList_toList]
  have htext : stringText pieces = quote s := by rw [stringText, hchars, quote]
  rw [← hmeaning, ← htext]
  exact .text pieces

/-- A number begins with a digit or a minus sign. -/
theorem head?_number {cs : List Char} (h : IsNumber cs) (rest : List Char) :
    ∃ c tail, cs ++ rest = c :: tail ∧ (c = '-' || c.isDigit) = true := by
  obtain ⟨sign, integer, fraction, exponent, hsign, hinteger, -, -, rfl⟩ := h
  rcases hsign with rfl | rfl
  · obtain ⟨d, hhead, hd⟩ := head?_integer hinteger (fraction ++ exponent ++ rest)
    obtain ⟨tail, htail⟩ := List.head?_eq_some_iff.mp hhead
    refine ⟨d, tail, ?_, by rw [hd, Bool.or_true]⟩
    rw [← htail]
    simp only [List.nil_append, List.append_assoc]
  · exact ⟨'-', integer ++ fraction ++ exponent ++ rest, rfl, rfl⟩

/-- Neither a digit nor a minus sign is punctuation or a quote. -/
theorem punctuation?_of_number {c : Char} (h : (c = '-' || c.isDigit) = true) :
    punctuation? c = none ∧ c ≠ '"' := by
  have hne (d : Char) (hd : (d = '-' || d.isDigit) = false) : c ≠ d := by
    rintro rfl
    cases h.symm.trans hd
  refine ⟨?_, hne '"' rfl⟩
  rw [punctuation?]
  · exact hne '\x7b' rfl
  · exact hne '\x7d' rfl
  · exact hne '[' rfl
  · exact hne ']' rfl
  · exact hne ',' rfl
  · exact hne ':' rfl

/-- A lexeme is read from the start of a text, and all of it. -/
theorem next?_append {l : Lexeme} {cs : List Char} (h : l.Spells cs) {rest : List Char}
    (hr : l = .number → Ends rest) : next? (cs ++ rest) = some (l, rest) := by
  cases h with
  | @mark c l hc =>
    rw [List.singleton_append, next?]
    simp only [hc]
  | word hw =>
    simp only [words, List.mem_cons, List.not_mem_nil, or_false, Prod.mk.injEq] at hw
    rcases hw with ⟨rfl, rfl⟩ | ⟨rfl, rfl⟩ | ⟨rfl, rfl⟩
    · rfl
    · rfl
    · rfl
  | number hn =>
    obtain ⟨c, tail, htail, hc⟩ := head?_number hn rest
    obtain ⟨hmark, hquote⟩ := punctuation?_of_number hc
    have hafter := afterNumber?_append hn (hr rfl)
    rw [htail] at hafter ⊢
    rw [next?]
    simp only [hmark, if_neg hquote, if_pos hc, hafter, Option.map_some]
  | text pieces =>
    have hquote : punctuation? '"' = none := rfl
    rw [stringText, List.cons_append, List.append_assoc, List.singleton_append, next?]
    simp only [hquote, if_true, codePoints_pieces, Option.map_some]
    rfl

/-! ## Texts -/

/-- Any number of blanks. -/
def Blanks (cs : List Char) : Prop := ∀ c ∈ cs, isSpace c = true

theorem blanks_nil : Blanks [] := nofun

/-- The texts of some lexemes, with any blanks before, between and behind them. -/
inductive SpellsAll : List Lexeme → List Char → Prop
  | nil {blanks : List Char} (hb : Blanks blanks) : SpellsAll [] blanks
  | cons {blanks cs rest : List Char} {l : Lexeme} {ls : List Lexeme} (hb : Blanks blanks)
      (hl : l.Spells cs) (hrest : SpellsAll ls rest) : SpellsAll (l :: ls) (blanks ++ (cs ++ rest))

/-- No number stands directly before a lexeme that could go on with it. -/
def Separate (ls : List Lexeme) : Prop := ls.IsChain fun l next => l = .number → next.isMark = true

theorem SpellsAll.singleton {l : Lexeme} {cs : List Char} (h : l.Spells cs) :
    SpellsAll [l] cs := by
  have hall := SpellsAll.cons blanks_nil h (.nil blanks_nil)
  rw [List.nil_append, List.append_nil] at hall
  exact hall

theorem SpellsAll.blanks_append {ls : List Lexeme} {cs blanks : List Char} (h : SpellsAll ls cs)
    (hb : Blanks blanks) : SpellsAll ls (blanks ++ cs) := by
  have happend {blanks' : List Char} (hb' : Blanks blanks') : Blanks (blanks ++ blanks') := by
    intro c hc
    rcases List.mem_append.mp hc with hc | hc
    · exact hb c hc
    · exact hb' c hc
  cases h with
  | nil hb' => exact .nil (happend hb')
  | cons hb' hl hrest =>
    rw [← List.append_assoc]
    exact .cons (happend hb') hl hrest

theorem SpellsAll.append {ls ls' : List Lexeme} {cs cs' : List Char} (h : SpellsAll ls cs)
    (h' : SpellsAll ls' cs') : SpellsAll (ls ++ ls') (cs ++ cs') := by
  induction h with
  | nil hb => exact h'.blanks_append hb
  | cons hb hl _ ih =>
    rw [List.append_assoc, List.append_assoc]
    exact .cons hb hl ih

/-- No blank goes on with a number. -/
theorem goesOn_of_isSpace {c : Char} (h : isSpace c = true) : goesOn c = false := by
  simp only [isSpace, Bool.or_eq_true, decide_eq_true_eq] at h
  rcases h with ((rfl | rfl) | rfl) | rfl
  · rfl
  · rfl
  · rfl
  · rfl

/-- No punctuation does. -/
theorem Lexeme.Spells.ends {l : Lexeme} {cs : List Char} (h : l.Spells cs)
    (hl : l.isMark = true) (rest : List Char) : Ends (cs ++ rest) := by
  cases h with
  | @mark c l hc =>
    intro d hd
    cases hd
    cases hgoes : goesOn c with
    | false => rfl
    | true =>
      simp only [goesOn, Bool.or_eq_true, decide_eq_true_eq] at hgoes
      rcases hgoes with ((hdigit | rfl) | rfl) | rfl
      · have hnone := (punctuation?_of_number (c := c) (by rw [hdigit, Bool.or_true])).1
        cases hnone.symm.trans hc
      · cases hc
      · cases hc
      · cases hc
  | word hw =>
    simp only [words, List.mem_cons, List.not_mem_nil, or_false, Prod.mk.injEq] at hw
    rcases hw with ⟨-, rfl⟩ | ⟨-, rfl⟩ | ⟨-, rfl⟩
    · cases hl
    · cases hl
    · cases hl
  | number hn => cases hl
  | text pieces => cases hl

/-- What follows a number does not go on with it. -/
theorem SpellsAll.ends {ls : List Lexeme} {cs : List Char} (h : SpellsAll ls cs)
    (hl : ∀ l ∈ ls.head?, l.isMark = true) : Ends cs := by
  cases h with
  | nil hb =>
    intro c hc
    exact goesOn_of_isSpace (hb c (List.mem_of_mem_head? hc))
  | @cons blanks cs rest l ls hb hspells hrest =>
    cases blanks with
    | nil => exact hspells.ends (hl l rfl) rest
    | cons b blanks =>
      intro c hc
      cases hc
      exact goesOn_of_isSpace (hb b List.mem_cons_self)

/-! ## Reading lexemes -/

theorem lexemes?_blanks {blanks : List Char} (hb : Blanks blanks) (cs : List Char) :
    lexemes? (blanks ++ cs) = lexemes? cs := by
  induction blanks with
  | nil => rfl
  | cons b blanks ih =>
    rw [List.cons_append, lexemes?, if_pos (hb b List.mem_cons_self)]
    exact ih fun c hc => hb c (List.mem_cons_of_mem b hc)

/-- A lexeme begins with no blank. -/
theorem Lexeme.Spells.exists_cons {l : Lexeme} {cs : List Char} (h : l.Spells cs) :
    ∃ c tail, cs = c :: tail ∧ isSpace c = false := by
  have hspace {c : Char} (hc : isSpace c = true) : punctuation? c = none ∧ goesOn c = false := by
    refine ⟨?_, goesOn_of_isSpace hc⟩
    simp only [isSpace, Bool.or_eq_true, decide_eq_true_eq] at hc
    rcases hc with ((rfl | rfl) | rfl) | rfl
    · rfl
    · rfl
    · rfl
    · rfl
  cases h with
  | @mark c l hc =>
    refine ⟨c, [], rfl, ?_⟩
    cases hs : isSpace c with
    | false => rfl
    | true => cases (hspace hs).1.symm.trans hc
  | word hw =>
    simp only [words, List.mem_cons, List.not_mem_nil, or_false, Prod.mk.injEq] at hw
    rcases hw with ⟨rfl, -⟩ | ⟨rfl, -⟩ | ⟨rfl, -⟩
    · exact ⟨'n', _, rfl, rfl⟩
    · exact ⟨'t', _, rfl, rfl⟩
    · exact ⟨'f', _, rfl, rfl⟩
  | number hn =>
    obtain ⟨c, tail, htail, hc⟩ := head?_number hn []
    rw [List.append_nil] at htail
    refine ⟨c, tail, htail, ?_⟩
    cases hs : isSpace c with
    | false => rfl
    | true =>
      simp only [isSpace, Bool.or_eq_true, decide_eq_true_eq] at hs
      rcases hs with ((rfl | rfl) | rfl) | rfl
      · cases hc
      · cases hc
      · cases hc
      · cases hc
  | text pieces => exact ⟨'"', _, rfl, rfl⟩

/-- **The lexemes of a text are read from it.** -/
theorem lexemes?_of_spellsAll {ls : List Lexeme} {cs : List Char} (h : SpellsAll ls cs)
    (hs : Separate ls) : lexemes? cs = some ls := by
  induction h with
  | nil hb =>
    have hblanks := lexemes?_blanks hb []
    rw [List.append_nil] at hblanks
    rw [hblanks, lexemes?]
  | @cons blanks cs rest l ls hb hl hrest ih =>
    have hnext : next? (cs ++ rest) = some (l, rest) := by
      refine next?_append hl fun hnumber => hrest.ends ?_
      intro next hmem
      obtain ⟨tail, rfl⟩ := List.head?_eq_some_iff.mp hmem
      exact (List.isChain_cons_cons.mp hs).1 hnumber
    obtain ⟨c, tail, rfl, hc⟩ := hl.exists_cons
    rw [lexemes?_blanks hb]
    rw [List.cons_append] at hnext ⊢
    rw [lexemes?, if_neg (by rw [hc]; exact Bool.false_ne_true)]
    split
    · rename_i hnone
      cases hnone.symm.trans hnext
    · rename_i l' after hsome
      cases hsome.symm.trans hnext
      rw [ih hs.tail]
      rfl

end StoryPlayer.Json
