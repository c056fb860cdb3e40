/-!
# Addresses of hosts

Numbers of 32 bits, written as one to four numbers between dots, and groups of eight 16-bit numbers,
written in hexadecimal between colons, where one run of zeros may be left out.
-/

namespace StoryPlayer.Host.Address

/-- The value of a digit in a base up to 16. -/
def digitValue? (base : Nat) (c : Char) : Option Nat :=
  let n :=
    if c.isDigit then c.toNat - '0'.toNat
    else if 'a' ≤ c ∧ c ≤ 'f' then c.toNat - 'a'.toNat + 10
    else if 'A' ≤ c ∧ c ≤ 'F' then c.toNat - 'A'.toNat + 10
    else base
  if n < base then some n else none

/-- The value of some digits in a base. -/
def numeral? (base : Nat) (digits : List Char) : Option Nat :=
  digits.foldlM (fun n c => (digitValue? base c).map (n * base + ·)) 0

/-! ## 32 bits -/

/-- The value of a part between dots: hexadecimal after `0x`, octal after another zero. -/
def part? : List Char → Option Nat
  | [] => none
  | '0' :: 'x' :: digits | '0' :: 'X' :: digits => numeral? 16 digits
  | '0' :: d :: digits => numeral? 8 (d :: digits)
  | digits => numeral? 10 digits

/-- The parts of a name without the empty one after a dot at its end. -/
def withoutRoot (parts : List (List Char)) : List (List Char) :=
  if parts.getLast? = some [] then parts.dropLast else parts

/-- Whether a name of these parts can only be an address: its last part is a number. -/
def endsInNumber (parts : List (List Char)) : Bool :=
  let last := (withoutRoot parts).getLastD []
  (last ≠ [] && last.all Char.isDigit) || (part? last).isSome

/-- The address of these parts. The last number fills the bytes that the ones before it leave. -/
def ofParts? (parts : List (List Char)) : Option Nat := do
  let parts := withoutRoot parts
  let numbers ← parts.mapM part?
  let last ← numbers.getLast?
  let bytes := numbers.dropLast
  if bytes.length < 4 ∧ bytes.all (· < 256) ∧ last < Nat.pow 256 (4 - bytes.length) then
    return bytes.foldl (fun n b => n * 256 + b) 0 * Nat.pow 256 (4 - bytes.length) + last
  else none

/-- An address as four bytes between dots. -/
def dotted (address : Nat) : List Char :=
  ['.'].intercalate ([3, 2, 1, 0].map fun i => Nat.toDigits 10 (address / Nat.pow 256 i % 256))

/-! ## Eight groups -/

/-- The value of a group of one to four digits. -/
def group? (digits : List Char) : Option Nat :=
  if digits = [] ∨ 4 < digits.length then none else numeral? 16 digits

/-- The value of a byte in decimal without needless zeros. -/
def byte? : List Char → Option Nat
  | [] => none
  | ['0'] => some 0
  | '0' :: _ => none
  | digits => (numeral? 10 digits).filter (· < 256)

/-- The two groups that an address of four bytes between dots stands for. -/
def pair? (cs : List Char) : Option (List Nat) := do
  match ← (cs.splitOn '.').mapM byte? with
  | [a, b, c, d] => return [a * 256 + b, c * 256 + d]
  | _ => none

/-- The groups between colons; where an address may end, four bytes may stand for the last two. -/
def groups? (mayEnd : Bool) (cs : List Char) : Option (List Nat) :=
  if cs.isEmpty then some []
  else do
    let parts := cs.splitOn ':'
    let first ← parts.dropLast.mapM group?
    let last := parts.getLastD []
    let last ← if mayEnd && last.contains '.' then pair? last else (group? last).map ([·])
    return first ++ last

/-- What stands before the first pair of colons and after it. -/
def splitGap? : List Char → Option (List Char × List Char)
  | [] => none
  | ':' :: ':' :: rest => some ([], rest)
  | c :: rest => (splitGap? rest).map fun (before, after) => (c :: before, after)

/-- The eight groups of an address. A pair of colons stands for one or more zeros. -/
def ofGroups? (cs : List Char) : Option (List Nat) := do
  match splitGap? cs with
  | none =>
    let groups ← groups? true cs
    if groups.length = 8 then some groups else none
  | some (before, after) =>
    let before ← groups? false before
    let after ← groups? true after
    let missing := 8 - (before.length + after.length)
    if missing = 0 then none else some (before ++ List.replicate missing 0 ++ after)

/-- How many zeros in a row begin at an index. -/
def zerosFrom (groups : List Nat) (i : Nat) : Nat := ((groups.drop i).takeWhile (· = 0)).length

/-- Groups in hexadecimal between colons. -/
def joined (groups : List Nat) : List Char := [':'].intercalate (groups.map (Nat.toDigits 16))

/-- Eight groups as they are written: a pair of colons for the first of the longest runs of two or
more zeros. -/
def grouped (groups : List Nat) : List Char :=
  let gap := (List.range groups.length).foldl (fun best i =>
    if zerosFrom groups best < zerosFrom groups i then i else best) 0
  let zeros := zerosFrom groups gap
  if zeros < 2 then joined groups
  else joined (groups.take gap) ++ [':', ':'] ++ joined (groups.drop (gap + zeros))

end StoryPlayer.Host.Address
