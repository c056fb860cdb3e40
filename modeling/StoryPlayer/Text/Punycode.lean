/-!
# Punycode

Any text as letters, digits and hyphens of ASCII. The ASCII characters of the text come first, then a
hyphen, then the others in the order of their code points: for each of them the distance from the one
before is written, where a step goes from one place of the text so far to the next and, past the last
place, to the next code point. Distances are numerals to the base 36 whose digits end themselves.
-/

namespace StoryPlayer.Punycode

/-- A digit of a distance. -/
def digit (n : Nat) : Char := Char.ofNat (if n < 26 then 'a'.toNat + n else '0'.toNat + (n - 26))

/-- The value of a digit, whose case does not matter. -/
def digitValue? (c : Char) : Option Nat :=
  if c.isLower then some (c.toNat - 'a'.toNat)
  else if c.isUpper then some (c.toNat - 'A'.toNat)
  else if c.isDigit then some (c.toNat - '0'.toNat + 26)
  else none

/-- A digit below this value is the last one of its numeral. -/
def threshold (bias position : Nat) : Nat := min 26 (max 1 (position - bias))

theorem threshold_pos (bias position : Nat) : 0 < threshold bias position := by
  unfold threshold
  omega

/-- The numeral of a distance, from the digit at this position on. -/
def numeral (bias position n : Nat) : List Char :=
  let t := threshold bias position
  if n < t then [digit n]
  else digit (t + (n - t) % (36 - t)) :: numeral bias (position + 36) ((n - t) / (36 - t))
termination_by n
decreasing_by
  have := threshold_pos bias position
  have := Nat.div_le_self (n - threshold bias position) (36 - threshold bias position)
  omega

/-- A distance cut down until it is small, and 36 for each cut. -/
def cutDown (n : Nat) : Nat × Nat :=
  if n ≤ 455 then (n, 0)
  else
    let (n, cuts) := cutDown (n / 35)
    (n, cuts + 36)
termination_by n
decreasing_by omega

/-- The bias for the next distance, after a distance that led to a text of `length` characters. -/
def nextBias (distance length : Nat) (isFirst : Bool) : Nat :=
  let scaled := distance / if isFirst then 700 else 2
  let (rest, cuts) := cutDown (scaled + scaled / length)
  cuts + 36 * rest / (rest + 38)

/-- What has been written so far: `distance` counts the steps since the last numeral, `placed` the
characters that the text so far has. -/
structure Writer where
  distance : Nat
  bias : Nat
  placed : Nat
  isFirst : Bool
  written : List Char

/-- Step past a character of the text, on the way to those with this code point. -/
def Writer.pass (w : Writer) (codePoint : Nat) (c : Char) : Writer :=
  if c.toNat < codePoint then { w with distance := w.distance + 1 }
  else if c.toNat = codePoint then
    { distance := 0, bias := nextBias w.distance (w.placed + 1) w.isFirst,
      placed := w.placed + 1, isFirst := false,
      written := w.written ++ numeral w.bias 36 w.distance }
  else w

/-- Place the characters with these code points, which ascend from `next` on. -/
def Writer.place (w : Writer) (cs : List Char) (next : Nat) : List Nat → Writer
  | [] => w
  | codePoint :: rest =>
    let w := { w with distance := w.distance + (codePoint - next) * (w.placed + 1) }
    let w := cs.foldl (fun w c => w.pass codePoint c) w
    { w with distance := w.distance + 1 }.place cs (codePoint + 1) rest

/-- A number put into an ascending list, unless it is there. -/
def insertAscending (n : Nat) : List Nat → List Nat
  | [] => [n]
  | m :: rest =>
    if n < m then n :: m :: rest
    else if n = m then m :: rest
    else m :: insertAscending n rest

/-- The written form of a text. -/
def encode (cs : List Char) : List Char :=
  let ascii := cs.filter (·.toNat < 0x80)
  let others := (cs.filter (0x80 ≤ ·.toNat)).foldr (fun c rest => insertAscending c.toNat rest) []
  let w : Writer := ⟨0, 72, ascii.length, true, []⟩
  ascii ++ (if ascii.isEmpty then [] else ['-']) ++ (w.place cs 0x80 others).written

/-- The distance that some digits begin with, added to `n`, and what follows it. -/
def readNumeral (bias position weight n : Nat) : List Char → Option (Nat × List Char)
  | [] => none
  | c :: rest => do
    let d ← digitValue? c
    let t := threshold bias position
    if d < t then some (n + d * weight, rest)
    else readNumeral bias (position + 36) (weight * (36 - t)) (n + d * weight) rest

theorem length_of_readNumeral {bias position weight n : Nat} {cs : List Char}
    {result : Nat × List Char} (h : readNumeral bias position weight n cs = some result) :
    result.2.length < cs.length := by
  induction cs generalizing position weight n with
  | nil => simp [readNumeral] at h
  | cons c rest ih =>
    simp only [readNumeral, Option.bind_eq_bind, Option.bind_eq_some_iff] at h
    obtain ⟨d, _, h⟩ := h
    split at h
    · simp only [Option.some.injEq] at h
      simp [← h]
    · have := ih h
      simp only [List.length_cons]
      omega

/-- The text that some distances lead to from a text so far. The next character to place has at least
this code point, and at least `place` characters stand before it if it has just this one; only before
the first distance is `place` zero. -/
def readPlaces (bias codePoint place : Nat) (placed : List Char) : List Char → Option (List Char)
  | [] => some placed
  | c :: cs =>
    match h : readNumeral bias 36 1 0 (c :: cs) with
    | none => none
    | some (distance, rest) =>
      let length := placed.length + 1
      let codePoint' := codePoint + (place + distance) / length
      let place' := (place + distance) % length
      if codePoint'.isValidChar then
        readPlaces (nextBias distance length (place = 0)) codePoint' (place' + 1)
          (placed.insertIdx place' (Char.ofNat codePoint')) rest
      else none
termination_by digits => digits.length
decreasing_by
  have := length_of_readNumeral h
  simpa using this

/-- The text that a written form stands for. A hyphen in front ends no ASCII characters. -/
def decode? (cs : List Char) : Option (List Char) :=
  let digits := (cs.reverse.takeWhile (· ≠ '-')).reverse
  let ascii := cs.take (cs.length - digits.length - 1)
  if ascii.isEmpty && digits.length < cs.length then none
  else if ascii.all (·.toNat < 0x80) then readPlaces 72 0x80 0 ascii digits
  else none

end StoryPlayer.Punycode
