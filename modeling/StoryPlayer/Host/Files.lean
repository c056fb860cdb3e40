import StoryPlayer.Text.Utf8

/-!
# Files

The files below the working directory, and what it takes to read and write them by path. Paths are
byte strings. Directories above the working directory exist, but nothing else in them is known.
-/

namespace StoryPlayer.Host

/-- Why a file cannot be read or written. -/
inductive FileFault where
  | noEntry
  | alreadyExists
  | notDirectory
  | isDirectory
  | nameTooLong
  | nulByte
  | notUtf8
  /-- Any other failure, in the system's words. -/
  | other (message : String)
  deriving DecidableEq, Repr

/-- The wording of a fault. -/
def FileFault.message : FileFault → String
  | .noEntry => "No such file or directory (os error 2)"
  | .alreadyExists => "File exists (os error 17)"
  | .notDirectory => "Not a directory (os error 20)"
  | .isDirectory => "Is a directory (os error 21)"
  | .nameTooLong => "File name too long (os error 36)"
  | .nulByte => "file name contained an unexpected NUL byte"
  | .notUtf8 => "stream did not contain valid UTF-8"
  | .other message => message

/-- A path, as bytes. -/
abbrev Path := Bytes

/-- What stands under a name: a file, or a directory and what it holds by name. -/
inductive Entry where
  | file (content : Bytes)
  | directory (entries : List (Bytes × Entry))

namespace Entry

def isDirectory : Entry → Bool
  | .file _ => false
  | .directory _ => true

/-- What a directory holds under a name. -/
def child? : Entry → Bytes → Option Entry
  | .file _, _ => none
  | .directory entries, name => entries.lookup name

/-- What some names lead to, one after another. -/
def find? (e : Entry) : List Bytes → Option Entry
  | [] => some e
  | name :: names => (e.child? name).bind (·.find? names)

/-- A directory without what it holds under a name. A file holds nothing. -/
def removeChild (e : Entry) (name : Bytes) : Entry :=
  match e with
  | .file content => .file content
  | .directory entries => .directory (entries.filter (·.1 ≠ name))

/-- A directory with an entry in place of what it holds under a name. A file holds nothing. -/
def setChild (e : Entry) (name : Bytes) (child : Entry) : Entry :=
  match e.removeChild name with
  | .file content => .file content
  | .directory entries => .directory ((name, child) :: entries)

/-- A directory with an entry where some names lead, and with the directories that are missing on the
way. -/
def set (e : Entry) (new : Entry) : List Bytes → Entry
  | [] => new
  | name :: names => e.setChild name (((e.child? name).getD (.directory [])).set new names)

/-- A directory without the file that some names lead to. -/
def removeFile (e : Entry) : List Bytes → Entry
  | [] => e
  | [name] => if (e.child? name).any (!·.isDirectory) then e.removeChild name else e
  | name :: names =>
    match e.child? name with
    | some child => e.setChild name (child.removeFile names)
    | none => e

end Entry

/-- The files below the working directory, which is a directory itself. -/
structure Files where
  root : Entry

/-- Where a path leads. -/
inductive Place where
  /-- Below the working directory, by these names, or at it. -/
  | inside (names : List Bytes)
  /-- At a directory above the working directory. -/
  | above
  deriving DecidableEq, Repr

namespace Files

def empty : Files := ⟨.directory []⟩

/-- The entry of a place. -/
def at? (fs : Files) : Place → Option Entry
  | .inside names => fs.root.find? names
  | .above => some (.directory [])

/-- Whether there is a directory at a place. -/
def hasDirectory (fs : Files) (place : Place) : Bool := (fs.at? place).any Entry.isDirectory

def slash : UInt8 := 0x2F
def dot : UInt8 := 0x2E

/-- The parts of a path between its slashes. -/
def parts (path : Path) : List Bytes := path.splitOn slash

/-- Follow one part of a path from a directory. An empty part stays there. -/
def follow (fs : Files) (place : Place) (part : Bytes) : Except FileFault Place :=
  if !fs.hasDirectory place then .error .notDirectory
  else if part = [] ∨ part = [dot] then .ok place
  else if part = [dot, dot] then
    match place with
    | .inside (n :: ns) => .ok (.inside (n :: ns).dropLast)
    | _ => .ok .above
  else if part.length > 255 then .error .nameTooLong
  else
    match place with
    | .above => .error .noEntry
    | .inside names =>
      if (fs.at? (.inside (names ++ [part]))).isSome then .ok (.inside (names ++ [part]))
      else .error .noEntry

/-- Where a path begins. -/
def origin (path : Path) : Place := if path.head? = some slash then .above else .inside []

/-- What is wrong with a path by itself. -/
def pathFault? (path : Path) : Option FileFault :=
  if path.contains 0 then some .nulByte
  else if path.isEmpty then some .noEntry
  else if path.length ≥ 4096 then some .nameTooLong
  else none

/-- Where a path leads. -/
def resolve (fs : Files) (path : Path) : Except FileFault Place :=
  match pathFault? path with
  | some fault => .error fault
  | none => (parts path).foldlM fs.follow (origin path)

/-- The bytes of the file at a path. -/
def read (fs : Files) (path : Path) : Except FileFault Bytes := do
  match fs.at? (← fs.resolve path) with
  | some (.file content) => .ok content
  | some (.directory _) => .error .isDirectory
  | none => .error .noEntry

/-- The names on the way that a plain path spells. -/
def namesOf (path : Path) : List Bytes := (parts path).filter fun p => p ≠ [] ∧ p ≠ [dot]

/-- The files with one more file, and the directories on the way to it. A path without names is that
of no file. -/
def put (fs : Files) (path : Path) (content : Bytes) : Files :=
  match namesOf path with
  | [] => fs
  | name :: names => ⟨fs.root.set (.file content) (name :: names)⟩

/-- The files without one of them. -/
def remove (fs : Files) (path : Path) : Files := ⟨fs.root.removeFile (namesOf path)⟩

/-- The parts of a path up to its last name, that name, and whether slashes follow it. -/
def splitLast (path : Path) : List Bytes × Bytes × Bool :=
  let kept := (path.reverse.dropWhile (· = slash)).reverse
  ((parts kept).dropLast, (parts kept).getLastD [], kept.length < path.length)

/-- The files after writing one at a path, whose directory must exist. A path that ends in a slash
names no file. -/
def write (fs : Files) (path : Path) (content : Bytes) : Except FileFault Files := do
  match pathFault? path with
  | some fault => .error fault
  | none =>
    let (way, name, slashes) := splitLast path
    let place ← way.foldlM fs.follow (origin path)
    if !fs.hasDirectory place then .error .notDirectory
    else if slashes ∨ name = [] ∨ name = [dot] ∨ name = [dot, dot] then .error .isDirectory
    else if name.length > 255 then .error .nameTooLong
    else
      match place with
      | .above => .error .noEntry
      | .inside names =>
        if fs.hasDirectory (.inside (names ++ [name])) then .error .isDirectory
        else .ok ⟨fs.root.set (.file content) (names ++ [name])⟩

/-- A walk along a path that makes the directories that are missing. -/
structure Walk where
  files : Files
  place : Place
  hasMade : Bool

/-- Follow one part of a path. Until a directory is missing, the path is asked for as a whole, and a
file on the way is no directory; from then on each directory is asked for by itself, and a file in
its place exists already. Above the working directory any directory is taken to be there. -/
def Walk.follow (w : Walk) (part : Bytes) : Except FileFault Walk :=
  match w.files.follow w.place part, w.place with
  | .ok place, _ =>
    if w.hasMade && !w.files.hasDirectory place then .error .alreadyExists
    else .ok { w with place }
  | .error .noEntry, .inside names =>
    let names := names ++ [part]
    .ok ⟨⟨w.files.root.set (.directory []) names⟩, .inside names, true⟩
  | .error .noEntry, .above => .ok w
  | .error fault, _ => .error fault

/-- The files with a directory at a path and all directories on the way to it. A directory that the
path passes by going up again is made too. -/
def makeDirectories (fs : Files) (path : Path) : Except FileFault Files := do
  if path.isEmpty then return fs
  match pathFault? path with
  | some fault => .error fault
  | none =>
    let w ← (parts path).foldlM Walk.follow ⟨fs, origin path, false⟩
    if w.files.hasDirectory w.place then return w.files else .error .alreadyExists

end Files

end StoryPlayer.Host
