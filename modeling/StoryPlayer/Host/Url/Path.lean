import StoryPlayer.Host.Url
import StoryPlayer.Text.Percent

/-!
# Paths of URLs

A path is read segment by segment: those that are one or two dots are carried out, in their percent
forms too. Tabs and line breaks in a path do not count, except that one right behind a drive parts it
from what follows.
-/

namespace StoryPlayer.Host

/-!
## Characters that need a percent form

Besides the ones that cannot be printed.
-/

/-- In a fragment. -/
def fragmentEscapes : List Char := [' ', '"', '<', '>', '\x60']

/-- In a segment of a path. -/
def pathEscapes : List Char := fragmentEscapes ++ ['#', '?', '{', '}']

/-- In a user or a password. -/
def userEscapes : List Char := pathEscapes ++ ['/', ':', ';', '=', '@', '[', '\\', ']', '^', '|']

/-- In a query, where an apostrophe is one of them unless the scheme is a general one. -/
def queryEscapes (kind : SchemeKind) : List Char :=
  [' ', '"', '#', '<', '>'] ++ if kind = .general then [] else ['\x27']

/-! ## Breaks -/

/-- Whether a character is a tab or a line break. -/
def isBreak (c : Char) : Bool := c = '\t' || c = '\n' || c = '\r'

/-- A text without its tabs and line breaks. -/
def withoutBreaks (cs : List Char) : List Char := cs.filter (!isBreak ·)

/-! ## Segments -/

/-- Whether a character separates the parts of a path. -/
def SchemeKind.isSlash (kind : SchemeKind) (c : Char) : Bool :=
  c = '/' || (kind ≠ .general && c = '\\')

/-- A segment as a URL spells it. -/
def spelledSegment (cs : List Char) : List Char := Percent.encode pathEscapes (withoutBreaks cs)

/-- A segment with its percent forms of dots undone. -/
def withDots : List Char → List Char
  | [] => []
  | '%' :: '2' :: 'e' :: rest | '%' :: '2' :: 'E' :: rest => '.' :: withDots rest
  | c :: rest => c :: withDots rest

/-- Whether a segment stays where it is. -/
def isDot (segment : List Char) : Bool := withDots segment = ['.']

/-- Whether a segment goes up. -/
def isTwoDots (segment : List Char) : Bool := withDots segment = ['.', '.']

/-- Whether a segment is a drive: a letter, and a colon or a bar. -/
def isDrive : List Char → Bool
  | [letter, c] => letter.isAlpha && (c = ':' || c = '|')
  | _ => false

/-- The drive in front of a segment and what a break parts from it. -/
def partedDrive? (cs : List Char) : Option (List Char × List Char) :=
  let drive := withoutBreaks (cs.takeWhile (· ≠ ':')) ++ [':']
  let rest := cs.dropWhile (· ≠ ':')
  if isDrive drive && rest[1]?.any isBreak then some (drive, rest.drop 1) else none

/-- The first segments of a path to a file, latest first: a drive has a colon, and what is parted from
it is a segment by itself. -/
def firstSegments (cs : List Char) : List (List Char) :=
  if isDrive (spelledSegment cs) then [(spelledSegment cs).take 1 ++ [':']]
  else
    match partedDrive? cs with
    | some (drive, rest) => [spelledSegment rest, drive]
    | none => [spelledSegment cs]

/-- Whether there is no way up from a segment: it is a drive, alone or with a backslash after it. -/
def isRoot (segment : List Char) : Bool :=
  isDrive (segment.take 2) && (segment.drop 2).head?.all (· = '\\')

/-- Some segments, latest first, after going up from them. -/
def goUp : List (List Char) → List (List Char)
  | [] => []
  | segment :: segments => if isRoot segment then segment :: segments else segments

/-- A path part way through: its segments so far, latest first, and whether it begins with a drive
that nothing is parted from. -/
structure PathSoFar where
  segments : List (List Char)
  hasDrive : Bool

/-- A path after one more part. -/
def PathSoFar.add (kind : SchemeKind) (p : PathSoFar) (part : List Char) : PathSoFar :=
  let segment := spelledSegment part
  if isTwoDots segment then { p with segments := goUp p.segments }
  else if isDot segment then p
  else if kind = .file ∧ p.segments = [] then ⟨firstSegments part, isDrive segment⟩
  else { p with segments := segment :: p.segments }

/-- What stands between the slashes of a path. -/
def pathParts (kind : SchemeKind) (path : List Char) : List (List Char) :=
  let path := path.dropWhile isBreak
  (if path.head?.any kind.isSlash then path.drop 1 else path).splitOnP kind.isSlash

/-- A path read to its end. -/
def PathSoFar.ofPath (kind : SchemeKind) (path : List Char) : PathSoFar :=
  (pathParts kind path).foldl (PathSoFar.add kind) ⟨[], false⟩

/-- The segments of a path without dot segments, one of which leaves a slash at the end of the path. A
path to a file does not begin with empty ones. -/
def readSegments (kind : SchemeKind) (path : List Char) : List (List Char) :=
  let last := spelledSegment ((pathParts kind path).getLastD [])
  let kept := (PathSoFar.ofPath kind path).segments.reverse
  let kept := if isDot last || isTwoDots last then kept ++ [[]] else kept
  match kind, kept.dropWhile (· = []) with
  | .file, [] => [[]]
  | .file, named => named
  | _, _ => kept

end StoryPlayer.Host
