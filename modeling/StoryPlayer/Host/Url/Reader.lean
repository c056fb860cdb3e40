import StoryPlayer.Host.Domain
import StoryPlayer.Host.Url.Path

/-!
# Reading URLs

A text is taken apart from its ends: the scheme in front, the fragment and the query behind, then the
authority, and the path is what is left.
-/

namespace StoryPlayer.Host

/-! ## Hosts -/

/-- A host between brackets, after the first of them. -/
def HostName.ofBracketed (cs : List Char) : Except UrlFault HostName :=
  if cs.getLast? = some ']' then
    match Address.ofGroups? cs.dropLast with
    | some groups => .ok (.groupedAddress groups)
    | none => .error .groupedAddress
  else .error .groupedAddress

/-- The host that a name or an address means. -/
def HostName.ofName (cs : List Char) : Except UrlFault HostName :=
  match Utf8.decode (Percent.decode (Utf8.encode cs)) with
  | .error _ => .error .domainName
  | .ok name =>
    match Domain.toAscii? name with
    | none => .error .domainName
    | some [] => .error .emptyHost
    | some name =>
      let parts := name.splitOn '.'
      if Address.endsInNumber parts then
        match Address.ofParts? parts with
        | some value => .ok (.address value)
        | none => .error .address
      else .ok (.domain name)

/-- A host of a general scheme, which is kept as it is. -/
def HostName.verbatim (cs : List Char) : Except UrlFault HostName :=
  if cs.any fun c => c = '\x00' || " #/:<>?@[\\]^|".toList.contains c then .error .domainCharacter
  else .ok (.domain (Percent.encode [] cs))

/-- The host that a text means under a kind of scheme. -/
def HostName.read (kind : SchemeKind) (cs : List Char) : Except UrlFault HostName :=
  match kind, cs with
  | .network, [] => .error .emptyHost
  | _, [] => .ok (.domain [])
  | _, '[' :: rest => ofBracketed rest
  | .general, cs => verbatim cs
  | .network, cs => ofName cs
  | .file, cs => do
    let host ← ofName cs
    return if host = .domain "localhost".toList then .domain [] else host

/-- A host and what follows it, from the first colon on that no brackets enclose. -/
def splitHost (isInside : Bool) : List Char → List Char × List Char
  | [] => ([], [])
  | c :: rest =>
    if c = ':' && !isInside then ([], c :: rest)
    else
      let (host, after) := splitHost (c = '[' || (isInside && c ≠ ']')) rest
      (c :: host, after)

/-- The number after a host, and what follows it if a backslash does. -/
def readNumber (scheme : List Char) (cs : List Char) : Except UrlFault (Option Nat × List Char) :=
  let digits := cs.takeWhile Char.isDigit
  let rest := cs.drop digits.length
  let number := (Address.numeral? 10 digits).getD 0
  if 65535 < number ∨ rest.head?.any (· ≠ '\\') then .error .hostNumber
  else if digits = [] ∨ some number = defaultNumber? scheme then .ok (none, rest)
  else .ok (some number, rest)

/-- What stands before the last `@`, and what stands after it. -/
def splitCredentials (cs : List Char) : Option (List Char) × List Char :=
  let host := (cs.reverse.takeWhile (· ≠ '@')).reverse
  if host.length < cs.length then (some (cs.take (cs.length - host.length - 1)), host)
  else (none, cs)

/-- An authority, and what follows it if that does not begin with a slash. -/
def Authority.read (scheme cs : List Char) : Except UrlFault (Authority × List Char) := do
  let kind := SchemeKind.ofScheme scheme
  let (credentials, rest) := splitCredentials cs
  let (host, after) := splitHost false rest
  if host.isEmpty && (credentials.any (· ≠ [':']) || after ≠ []) then throw .emptyHost
  let host ← HostName.read kind host
  let (number, rest) ← readNumber scheme (after.drop 1)
  let user := (credentials.getD []).takeWhile (· ≠ ':')
  let password := (credentials.getD []).drop (user.length + 1)
  return ({
    user := Percent.encode userEscapes user
    password := if password = [] then none else some (Percent.encode userEscapes password)
    host
    number }, rest)

/-! ## Whole URLs -/

/-- A text without blanks and controls around it. -/
def trimUrl (cs : List Char) : List Char :=
  let isOuter (c : Char) : Bool := c.toNat ≤ 0x20
  ((cs.dropWhile isOuter).reverse.dropWhile isOuter).reverse

/-- The scheme of a URL and what follows its colon. -/
def splitScheme? (url : List Char) : Option (List Char × List Char) :=
  match withoutBreaks (url.takeWhile (· ≠ ':')), url.dropWhile (· ≠ ':') with
  | c :: cs, _ :: rest =>
    if c.isAlpha && cs.all fun c => c.isAlphanum || c = '+' || c = '-' || c = '.' then
      some ((c :: cs).map Char.toLower, rest)
    else none
  | _, _ => none

/-- What stands before the first `mark`, and what stands after it. -/
def cutAt (mark : Char) (cs : List Char) : List Char × Option (List Char) :=
  let before := cs.takeWhile (· ≠ mark)
  (before, if before.length < cs.length then some (cs.drop (before.length + 1)) else none)

/-- An authority without a user. -/
def Authority.ofHost (host : HostName) : Authority := ⟨[], none, host, none⟩

/-- The authority and the path of a URL to a file. A drive in front of the path takes the place of the
host. The path of a URL with an empty host has an empty segment in front, so what comes next is no
drive. -/
def readFile (rest : List Char) : Except UrlFault (Authority × UrlPath) := do
  let kind := SchemeKind.file
  let withoutHost (path : List Char) : Except UrlFault (Authority × UrlPath) :=
    return (.ofHost (.domain []), .segments (readSegments kind path))
  match (withoutBreaks rest).take 2 with
  | [a, b] =>
    if kind.isSlash a && kind.isSlash b then
      let afterSlashes := ((rest.dropWhile isBreak).drop 1 |>.dropWhile isBreak).drop 1
      let host := withoutBreaks (afterSlashes.takeWhile (!kind.isSlash ·))
      if isDrive host then withoutHost afterSlashes
      else
        let name ← HostName.read kind host
        let path := afterSlashes.dropWhile (!kind.isSlash ·)
        if name = .domain [] then withoutHost ('/' :: path)
        else if (PathSoFar.ofPath kind path).hasDrive then withoutHost path
        else return (.ofHost name, .segments (readSegments kind path))
    else withoutHost rest
  | _ => withoutHost rest

/-- The authority and the path of a URL with a scheme that is not for files. -/
def readPlace (scheme rest : List Char) : Except UrlFault (Option Authority × UrlPath) := do
  let kind := SchemeKind.ofScheme scheme
  let withAuthority (cs : List Char) : Except UrlFault (Option Authority × UrlPath) := do
    let spelled := cs.takeWhile (!kind.isSlash ·)
    let (authority, after) ← Authority.read scheme spelled
    let path := (if after = [] then [] else '/' :: after) ++ cs.drop spelled.length
    return (some authority,
      .segments (if kind = .general ∧ path = [] then [] else readSegments kind path))
  match kind, rest with
  | .general, '/' :: '/' :: cs => withAuthority cs
  | .general, '/' :: _ => return (none, .segments (readSegments kind rest))
  | .general, _ => return (none, .verbatim (Percent.encode [] rest))
  | _, _ => withAuthority (rest.dropWhile kind.isSlash)

/-- The URL that a text spells. -/
def Url.read (text : String) : Except UrlFault Url := do
  match splitScheme? (trimUrl text.toList) with
  | none => throw .relative
  | some (scheme, rest) =>
    let kind := SchemeKind.ofScheme scheme
    let (rest, fragment) := cutAt '#' rest
    let (rest, query) := cutAt '?' rest
    let (authority, path) ←
      if kind = .file then (readFile rest).map fun (a, path) => (some a, path)
      else readPlace scheme (withoutBreaks rest)
    return {
      scheme, authority, path
      query := query.map fun cs => Percent.encode (queryEscapes kind) (withoutBreaks cs)
      fragment := fragment.map fun cs => Percent.encode fragmentEscapes (withoutBreaks cs) }

end StoryPlayer.Host
