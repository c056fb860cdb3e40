import StoryPlayer.Text.Hexadecimal
import StoryPlayer.Text.Lines
import StoryPlayer.Text.Utf16

/-!
# Lexemes of JSON

The smallest parts of a JSON text: punctuation, words, numbers and strings. Blanks between them
carry no meaning. A string may escape half of a surrogate pair; it is a lexeme all the same, but no
text denotes it.
-/

namespace StoryPlayer.Json

open StoryPlayer.Text (hexDigit?)
open StoryPlayer.Utf16 (isHighSurrogate isLowSurrogate joined)

inductive Lexeme where
  | openObject
  | closeObject
  | openList
  | closeList
  | comma
  | colon
  | null
  | bool (b : Bool)
  | number
  /-- A string, or `none` if it holds a lone surrogate. -/
  | text (s : Option String)
  deriving DecidableEq, Repr

/-- The four blanks of JSON. -/
def isSpace (c : Char) : Bool := c = ' ' || c = '\t' || c = '\r' || c = '\n'

/-! ## Strings -/

/-- The value of four hexadecimal digits. -/
def hex4? (a b c d : Char) : Option Nat := do
  let a ← hexDigit? a
  let b ← hexDigit? b
  let c ← hexDigit? c
  let d ← hexDigit? d
  return ((a * 16 + b) * 16 + c) * 16 + d

/-- The character that an escape of one letter stands for. -/
def shortEscape? : Char → Option Char
  | '"' => some '"'
  | '\\' => some '\\'
  | '/' => some '/'
  | 'b' => some '\x08'
  | 'f' => some '\x0c'
  | 'n' => some '\n'
  | 'r' => some '\r'
  | 't' => some '\t'
  | _ => none

/-- The code points of a string, surrogates among them, whose opening quote has been read, and what
follows its closing quote. -/
def codePoints : List Char → Option (List Nat × List Char)
  | [] => none
  | '"' :: rest => some ([], rest)
  | '\\' :: 'u' :: a :: b :: c :: d :: rest => do
    let n ← hex4? a b c d
    let (ns, after) ← codePoints rest
    return (n :: ns, after)
  | '\\' :: c :: rest => do
    let e ← shortEscape? c
    let (ns, after) ← codePoints rest
    return (e.toNat :: ns, after)
  | c :: rest =>
    if c.toNat < 0x20 || c = '\\' then none
    else do
      let (ns, after) ← codePoints rest
      return (c.toNat :: ns, after)

theorem length_of_codePoints {cs : List Char} {ns : List Nat} {after : List Char}
    (h : codePoints cs = some (ns, after)) : after.length < cs.length := by
  fun_induction codePoints cs generalizing ns after with
  | case1 => simp at h
  | case2 rest => simp only [Option.some.injEq, Prod.mk.injEq] at h; simp [h.2]
  | case3 a b c d rest ih =>
    simp only [Option.bind_eq_bind, Option.bind_eq_some_iff, Option.pure_def, Option.some.injEq,
      Prod.mk.injEq, Prod.exists] at h
    obtain ⟨_, _, _, _, hr, _, rfl⟩ := h
    have := ih hr
    simp only [List.length_cons]; omega
  | case4 c rest _ ih =>
    simp only [Option.bind_eq_bind, Option.bind_eq_some_iff, Option.pure_def, Option.some.injEq,
      Prod.mk.injEq, Prod.exists] at h
    obtain ⟨_, _, _, _, hr, _, rfl⟩ := h
    have := ih hr
    simp only [List.length_cons]; omega
  | case5 => simp at h
  | case6 c rest _ _ _ _ ih =>
    simp only [Option.bind_eq_bind, Option.bind_eq_some_iff, Option.pure_def, Option.some.injEq,
      Prod.mk.injEq, Prod.exists] at h
    obtain ⟨_, _, hr, _, rfl⟩ := h
    have := ih hr
    simp only [List.length_cons]; omega

/-- The text of some code points: each high surrogate joins the low one after it, and one that
stands alone leaves no text. -/
def ofCodePoints : List Nat → Option (List Char)
  | [] => some []
  | [n] => if isHighSurrogate n || isLowSurrogate n then none else some [Char.ofNat n]
  | n :: m :: rest =>
    if isHighSurrogate n then
      if isLowSurrogate m then (ofCodePoints rest).map (joined n m :: ·)
      else none
    else if isLowSurrogate n then none
    else (ofCodePoints (m :: rest)).map (Char.ofNat n :: ·)

/-! ## Numbers -/

/-- What follows one or more digits. -/
def afterDigits? : List Char → Option (List Char)
  | [] => none
  | c :: rest => if c.isDigit then some (rest.dropWhile Char.isDigit) else none

/-- What follows an integer without sign: zero, or digits that begin with another one. -/
def afterInteger? : List Char → Option (List Char)
  | '0' :: rest => some rest
  | cs => afterDigits? cs

/-- What follows a fraction, if there is one. -/
def afterFraction? : List Char → Option (List Char)
  | '.' :: rest => afterDigits? rest
  | cs => some cs

/-- A text without the sign at its start. -/
def dropSign : List Char → List Char
  | '+' :: rest => rest
  | '-' :: rest => rest
  | cs => cs

/-- What follows an exponent, if there is one. -/
def afterExponent? : List Char → Option (List Char)
  | 'e' :: rest => afterDigits? (dropSign rest)
  | 'E' :: rest => afterDigits? (dropSign rest)
  | cs => some cs

/-- What follows a number. -/
def afterNumber? (cs : List Char) : Option (List Char) := do
  let cs ← afterInteger? (if cs.head? = some '-' then cs.tail else cs)
  let cs ← afterFraction? cs
  afterExponent? cs

theorem length_of_afterDigits? {cs after : List Char} (h : afterDigits? cs = some after) :
    after.length < cs.length := by
  cases cs with
  | nil => simp [afterDigits?] at h
  | cons c rest =>
    simp only [afterDigits?] at h
    split at h
    · have := Text.length_dropWhile_le Char.isDigit rest
      simp only [Option.some.injEq] at h
      subst h
      simp only [List.length_cons]; omega
    · simp at h

theorem length_of_afterInteger? {cs after : List Char} (h : afterInteger? cs = some after) :
    after.length < cs.length := by
  unfold afterInteger? at h
  split at h
  · simp only [Option.some.injEq] at h; simp [h]
  · exact length_of_afterDigits? h

theorem length_of_afterFraction? {cs after : List Char} (h : afterFraction? cs = some after) :
    after.length ≤ cs.length := by
  unfold afterFraction? at h
  split at h
  · have := length_of_afterDigits? h
    simp only [List.length_cons]; omega
  · simp only [Option.some.injEq] at h; simp [h]

theorem length_dropSign_le (cs : List Char) : (dropSign cs).length ≤ cs.length := by
  unfold dropSign
  split <;> simp

theorem length_of_afterExponent? {cs after : List Char} (h : afterExponent? cs = some after) :
    after.length ≤ cs.length := by
  unfold afterExponent? at h
  split at h
  · next rest =>
    have := length_of_afterDigits? h
    have := length_dropSign_le rest
    simp only [List.length_cons]; omega
  · next rest =>
    have := length_of_afterDigits? h
    have := length_dropSign_le rest
    simp only [List.length_cons]; omega
  · simp only [Option.some.injEq] at h; simp [h]

theorem length_of_afterNumber? {cs after : List Char} (h : afterNumber? cs = some after) :
    after.length < cs.length := by
  simp only [afterNumber?, Option.bind_eq_bind, Option.bind_eq_some_iff] at h
  obtain ⟨a, ha, b, hb, hc⟩ := h
  have h₁ := length_of_afterInteger? ha
  have h₂ := length_of_afterFraction? hb
  have h₃ := length_of_afterExponent? hc
  split at h₁
  · rw [List.length_tail] at h₁; omega
  · omega

/-! ## Reading -/

/-- The lexeme of a character that is one by itself. -/
def punctuation? : Char → Option Lexeme
  | '\x7b' => some .openObject
  | '\x7d' => some .closeObject
  | '[' => some .openList
  | ']' => some .closeList
  | ',' => some .comma
  | ':' => some .colon
  | _ => none

/-- The words of JSON and their lexemes. -/
def words : List (List Char × Lexeme) :=
  [("null".toList, .null), ("true".toList, .bool true), ("false".toList, .bool false)]

/-- The lexeme at the start of a text without leading blanks, and what follows it. -/
def next? (cs : List Char) : Option (Lexeme × List Char) :=
  match cs with
  | [] => none
  | c :: rest =>
    match punctuation? c with
    | some l => some (l, rest)
    | none =>
      if c = '"' then
        (codePoints rest).map fun (ns, after) => (.text ((ofCodePoints ns).map String.ofList), after)
      else if c = '-' || c.isDigit then
        (afterNumber? cs).map fun after => (.number, after)
      else
        (words.find? fun (w, _) => w.isPrefixOf cs).map fun (w, l) => (l, rest.drop (w.length - 1))

theorem length_of_next? {cs : List Char} {l : Lexeme} {after : List Char}
    (h : next? cs = some (l, after)) : after.length < cs.length := by
  unfold next? at h
  split at h
  · simp at h
  · next c rest =>
    split at h
    · simp only [Option.some.injEq, Prod.mk.injEq] at h; simp [h.2]
    · split at h
      · simp only [Option.map_eq_some_iff, Prod.exists, Prod.mk.injEq] at h
        obtain ⟨ns, r, hr, -, rfl⟩ := h
        have := length_of_codePoints hr
        simp only [List.length_cons]; omega
      · split at h
        · simp only [Option.map_eq_some_iff, Prod.mk.injEq] at h
          obtain ⟨r, hr, -, rfl⟩ := h
          exact length_of_afterNumber? hr
        · simp only [Option.map_eq_some_iff, Prod.exists, Prod.mk.injEq] at h
          obtain ⟨w, _, -, -, rfl⟩ := h
          simp only [List.length_drop, List.length_cons]; omega

/-- The lexemes of a text, or `none` if some part of it is no lexeme. -/
def lexemes? : List Char → Option (List Lexeme)
  | [] => some []
  | c :: rest =>
    if isSpace c then lexemes? rest
    else
      match _h : next? (c :: rest) with
      | none => none
      | some (l, after) => (lexemes? after).map (l :: ·)
termination_by cs => cs.length
decreasing_by
  · simp
  · exact length_of_next? _h

end StoryPlayer.Json
