import StoryPlayer.Host.Address

/-!
# URLs

A URL in its parts, each in its normal form, and the text that it is written as.
-/

namespace StoryPlayer.Host

/-- Why a text is no URL by itself. -/
inductive UrlFault where
  /-- There is no scheme. -/
  | relative
  | emptyHost
  /-- What follows the host is no number of 16 bits. -/
  | hostNumber
  | address
  | groupedAddress
  | domainName
  | domainCharacter
  deriving DecidableEq, Repr

/-- The wording of a fault. -/
def UrlFault.message : UrlFault → String
  | .relative => "relative URL without a base"
  | .emptyHost => "empty host"
  | .hostNumber => "invalid port number"
  | .address => "invalid IPv4 address"
  | .groupedAddress => "invalid IPv6 address"
  | .domainName => "invalid international domain name"
  | .domainCharacter => "invalid domain character"

/-- What kind of scheme a URL has, which decides how the rest of it is read. -/
inductive SchemeKind where
  /-- There must be a host, and a backslash is a slash. -/
  | network
  /-- There may be a host, and a backslash is a slash. -/
  | file
  | general
  deriving DecidableEq, Repr

/-- The kind of a scheme. -/
def SchemeKind.ofScheme (scheme : List Char) : SchemeKind :=
  if scheme = "file".toList then .file
  else if ["http", "https", "ws", "wss", "ftp"].any (·.toList = scheme) then .network
  else .general

/-- The number after a host that a scheme has unless another one is given. -/
def defaultNumber? (scheme : List Char) : Option Nat :=
  if scheme = "http".toList ∨ scheme = "ws".toList then some 80
  else if scheme = "https".toList ∨ scheme = "wss".toList then some 443
  else if scheme = "ftp".toList then some 21
  else none

inductive HostName where
  /-- A name, which is empty if a URL has no host. -/
  | domain (name : List Char)
  | address (value : Nat)
  | groupedAddress (groups : List Nat)
  deriving DecidableEq, Repr

/-- A host as URLs show it. -/
def HostName.text : HostName → List Char
  | .domain name => name
  | .address value => Address.dotted value
  | .groupedAddress groups => '[' :: Address.grouped groups ++ [']']

/-- Who a URL is asked of. -/
structure Authority where
  user : List Char
  password : Option (List Char)
  host : HostName
  /-- The number after the host, unless it is the usual one of the scheme. -/
  number : Option Nat
  deriving DecidableEq, Repr

/-- Whether there is a user or a password. -/
def Authority.hasCredentials (a : Authority) : Bool := a.user ≠ [] || a.password.isSome

/-- An authority as URLs show it. -/
def Authority.text (a : Authority) : List Char :=
  let password := a.password.elim [] (':' :: ·)
  let number := a.number.elim [] (':' :: Nat.toDigits 10 ·)
  (if a.hasCredentials then a.user ++ password ++ ['@'] else []) ++ a.host.text ++ number

/-- What a URL names. -/
inductive UrlPath where
  | segments (segments : List (List Char))
  /-- A text that is kept as it is. -/
  | verbatim (text : List Char)
  deriving DecidableEq, Repr

structure Url where
  scheme : List Char
  authority : Option Authority
  path : UrlPath
  query : Option (List Char)
  fragment : Option (List Char)
  deriving DecidableEq, Repr

namespace Url

/-- Whether a URL names a host. -/
def hasHost (u : Url) : Bool := u.authority.any (·.host ≠ .domain [])

/-- A path as URLs show it. Without an authority, an empty first segment must not look like one. -/
def pathText (u : Url) : List Char :=
  match u.path with
  | .verbatim text => text
  | .segments segments =>
    let text := segments.flatMap ('/' :: ·)
    if u.authority.isNone && "//".toList.isPrefixOf text then "/.".toList ++ text else text

/-- A URL as a text. -/
def text (u : Url) : String :=
  String.ofList (u.scheme ++ [':'] ++ u.authority.elim [] (fun a => ['/', '/'] ++ a.text) ++
    u.pathText ++ u.query.elim [] ('?' :: ·) ++ u.fragment.elim [] ('#' :: ·))

end Url

end StoryPlayer.Host
