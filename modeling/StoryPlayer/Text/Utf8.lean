/-!
# UTF-8

Texts as bytes. Decoding cuts the bytes into pieces: a character, a faulty sequence of one to three
bytes that no continuation can mend, or a sequence that the end of the bytes cuts short. Strict
decoding stops at the first piece that is not a character; lenient decoding puts U+FFFD in its place.
-/

namespace StoryPlayer

/-- A byte string. -/
abbrev Bytes := List UInt8

namespace Utf8

/-- The bytes of a text. -/
def encode (cs : List Char) : Bytes := cs.flatMap String.utf8EncodeChar

/-- A byte that continues a sequence. -/
def isContinuation (b : UInt8) : Bool := 0x80 ≤ b && b ≤ 0xBF

/-- How many bytes follow a first byte, or `none` if no sequence begins with it. -/
def following (b : UInt8) : Option Nat :=
  if b < 0x80 then some 0
  else if 0xC2 ≤ b && b ≤ 0xDF then some 1
  else if 0xE0 ≤ b && b ≤ 0xEF then some 2
  else if 0xF0 ≤ b && b ≤ 0xF4 then some 3
  else none

/-- Whether `second` may follow `first` in a sequence of two to four bytes: this rules out overlong
forms, surrogates and values past the last code point. -/
def mayFollow (first second : UInt8) : Bool :=
  if first = 0xE0 then 0xA0 ≤ second && second ≤ 0xBF
  else if first = 0xED then 0x80 ≤ second && second ≤ 0x9F
  else if first = 0xF0 then 0x90 ≤ second && second ≤ 0xBF
  else if first = 0xF4 then 0x80 ≤ second && second ≤ 0x8F
  else isContinuation second

/-- The leading part of some bytes. -/
inductive Piece where
  /-- A character. -/
  | char (c : Char)
  /-- This many bytes that begin no character. -/
  | faulty (length : Nat)
  /-- A sequence that the end of the bytes cuts short. -/
  | cut
  deriving DecidableEq, Repr

/-- The six payload bits of a continuation byte. -/
def payload (b : UInt8) : Nat := b.toNat % 64

/-- The piece that begins with `first` and goes on with `rest`. -/
def piece (first : UInt8) (rest : Bytes) : Piece :=
  match following first with
  | none => .faulty 1
  | some 0 => .char (Char.ofNat first.toNat)
  | some n =>
    match rest with
    | [] => .cut
    | b :: rest =>
      if !mayFollow first b then .faulty 1
      else if n = 1 then .char (Char.ofNat (first.toNat % 32 * 64 + payload b))
      else
        match rest with
        | [] => .cut
        | c :: rest =>
          if !isContinuation c then .faulty 2
          else if n = 2 then
            .char (Char.ofNat ((first.toNat % 16 * 64 + payload b) * 64 + payload c))
          else
            match rest with
            | [] => .cut
            | d :: _ =>
              if !isContinuation d then .faulty 3
              else .char (Char.ofNat
                (((first.toNat % 8 * 64 + payload b) * 64 + payload c) * 64 + payload d))

/-- How many bytes after the first one belong to a piece of some bytes. -/
def Piece.tail (p : Piece) (first : UInt8) (rest : Bytes) : Nat :=
  match p with
  | .char _ => (following first).getD 0
  | .faulty n => n - 1
  | .cut => rest.length

/-- The pieces of some bytes, each with the index at which it begins. -/
def pieces (index : Nat) : Bytes → List (Nat × Piece)
  | [] => []
  | first :: rest =>
    let p := piece first rest
    let n := p.tail first rest
    (index, p) :: pieces (index + 1 + n) (rest.drop n)
termination_by bytes => bytes.length
decreasing_by simp only [List.length_drop, List.length_cons]; omega

/-- Why bytes are no text, with the index of the first byte that is to blame. -/
inductive Fault where
  | faulty (length index : Nat)
  | cut (index : Nat)
  deriving DecidableEq, Repr

/-- The wording of a fault. -/
def Fault.message : Fault → String
  | .faulty n i => s!"invalid utf-8 sequence of {n} bytes from index {i}"
  | .cut i => s!"incomplete utf-8 byte sequence from index {i}"

/-- The character of a piece; any other piece is a fault. -/
def strict : Nat × Piece → Except Fault Char
  | (_, .char c) => .ok c
  | (i, .faulty n) => .error (.faulty n i)
  | (i, .cut) => .error (.cut i)

/-- The text of some bytes, or the first fault in them. -/
def decode (bytes : Bytes) : Except Fault (List Char) := (pieces 0 bytes).mapM strict

/-- The character that stands for a faulty or cut piece. -/
def replacement : Char := '\uFFFD'

/-- The character of a piece, or the replacement character. -/
def lenient : Nat × Piece → Char
  | (_, .char c) => c
  | _ => replacement

/-- The text of some bytes, with the replacement character in place of each fault. -/
def decodeLenient (bytes : Bytes) : List Char := (pieces 0 bytes).map lenient

end Utf8

/-- The bytes of a string. -/
def utf8 (s : String) : Bytes := Utf8.encode s.toList

/-- The byte order mark. -/
def byteOrderMark : Char := '\uFEFF'

end StoryPlayer
