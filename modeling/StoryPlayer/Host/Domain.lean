import StoryPlayer.Host.Domain.Label

/-!
# Domain names

A name of any letters in the ASCII form that hosts are looked up by: each character as what it counts
as, accents put together with their letters, and each label in its ASCII form. A name in which some
letters are written from the right is one only if every label reads the same way wherever it stands.
-/

namespace StoryPlayer.Host.Domain

/-- Whether a character of ASCII may not stand in a name. -/
def isForbidden (c : Char) : Bool :=
  c.toNat ≤ 0x20 || c.toNat = 0x7F || "%#/:<>?@[\\]^|".toList.contains c

/-- The labels of a name. -/
def labels? (name : List Char) : Option (List Label) := do
  let labels ← ((← spelling? name).splitOn '.').mapM Label.read?
  if labels.any (hasRight ·.text) && !labels.all (isSteady ·.text) then none else some labels

/-- The ASCII form of a name. -/
def toAscii? (name : List Char) : Option (List Char) := do
  let labels ← labels? name
  let name := ['.'].intercalate (labels.map Label.ascii)
  if name.any isForbidden then none else some name

end StoryPlayer.Host.Domain
