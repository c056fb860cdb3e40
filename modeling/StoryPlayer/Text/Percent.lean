import StoryPlayer.Text.Utf8

/-!
# Percent forms

A percent sign and two hexadecimal digits stand for a byte. Which characters need this form depends
on where they stand; a character beyond ASCII always does, byte by byte.
-/

namespace StoryPlayer.Percent

/-- A hexadecimal digit, as percent forms write it. -/
def hexDigit (n : Nat) : Char := Char.ofNat (if n < 10 then '0'.toNat + n else 'A'.toNat + (n - 10))

/-- The value of a byte that is a hexadecimal digit. -/
def hexValue? (b : UInt8) : Option Nat :=
  if 0x30 ≤ b ∧ b ≤ 0x39 then some (b.toNat - 0x30)
  else if 0x41 ≤ b ∧ b ≤ 0x46 then some (b.toNat - 0x41 + 10)
  else if 0x61 ≤ b ∧ b ≤ 0x66 then some (b.toNat - 0x61 + 10)
  else none

/-- The percent form of a byte. -/
def ofByte (b : UInt8) : List Char := ['%', hexDigit (b.toNat / 16), hexDigit (b.toNat % 16)]

/-- A character that cannot be printed in ASCII. -/
def isUnprintable (c : Char) : Bool := c.toNat < 0x20 || 0x7F ≤ c.toNat

/-- A text with percent forms in place of the characters that cannot be printed and of some others. -/
def encode (others : List Char) (cs : List Char) : List Char :=
  cs.flatMap fun c =>
    if isUnprintable c || others.contains c then (String.utf8EncodeChar c).flatMap ofByte else [c]

/-- The bytes that a text with percent forms stands for. A percent sign without two digits after it
stands for itself. -/
def decode : Bytes → Bytes
  | [] => []
  | 0x25 :: high :: low :: rest =>
    match hexValue? high, hexValue? low with
    | some h, some l => UInt8.ofNat (16 * h + l) :: decode rest
    | _, _ => 0x25 :: decode (high :: low :: rest)
  | b :: rest => b :: decode rest

end StoryPlayer.Percent
