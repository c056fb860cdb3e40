import StoryPlayer.Text.Utf8

/-!
# UTF-16

Texts as units of two bytes, with a pair of surrogates for each character beyond U+FFFF. Decoding is
lenient only: U+FFFD stands for half of a pair that stands alone, and for a byte that is left over.
-/

namespace StoryPlayer.Utf16

def isHighSurrogate (n : Nat) : Bool := 0xD800 ≤ n && n ≤ 0xDBFF

def isLowSurrogate (n : Nat) : Bool := 0xDC00 ≤ n && n ≤ 0xDFFF

/-- A character is no half of a surrogate pair. -/
theorem not_isSurrogate_toNat (c : Char) :
    isHighSurrogate c.toNat = false ∧ isLowSurrogate c.toNat = false := by
  have hvalid : c.toNat < 0xD800 ∨ 0xDFFF < c.toNat ∧ c.toNat < 0x110000 := c.valid
  simp only [isHighSurrogate, isLowSurrogate, Bool.and_eq_false_iff, decide_eq_false_iff_not]
  omega

/-- The character of a surrogate pair. -/
def joined (high low : Nat) : Char := Char.ofNat (0x10000 + (high - 0xD800) * 0x400 + (low - 0xDC00))

/-- Which end of a unit comes first. -/
inductive Order where
  | little
  | big
  deriving DecidableEq, Repr

def Order.unit (order : Order) (first second : UInt8) : Nat :=
  match order with
  | .little => second.toNat * 0x100 + first.toNat
  | .big => first.toNat * 0x100 + second.toNat

/-- The units of some bytes, with `none` for a byte that is left over. -/
def units (order : Order) : Bytes → List (Option Nat)
  | [] => []
  | [_] => [none]
  | first :: second :: rest => some (order.unit first second) :: units order rest

/-- The text of some units after a high surrogate that waits for the low one. -/
def textFrom (waiting? : Option Nat) : List (Option Nat) → List Char
  | [] => if waiting?.isSome then [Utf8.replacement] else []
  | none :: _ => [Utf8.replacement]
  | some n :: rest =>
    if isLowSurrogate n then
      (waiting?.map (joined · n)).getD Utf8.replacement :: textFrom none rest
    else
      let alone := if waiting?.isSome then [Utf8.replacement] else []
      if isHighSurrogate n then alone ++ textFrom (some n) rest
      else alone ++ Char.ofNat n :: textFrom none rest

/-- The text of some bytes, with the replacement character in place of each fault. -/
def decodeLenient (order : Order) (bytes : Bytes) : List Char := textFrom none (units order bytes)

end StoryPlayer.Utf16
