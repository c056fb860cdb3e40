import StoryPlayer.Host.Url.Reader
import StoryPlayer.Text.Utf16

/-!
# The network

What a request for a URL is answered, and why a download can fail. A URL is put into its normal form
before it is asked for, without its user and password.
-/

namespace StoryPlayer.Host

/-- What a request is answered. -/
inductive Reply where
  /-- No connection comes about. -/
  | unreachable
  /-- An answer that names no charset for its body, or names UTF-8. -/
  | answer (status : Nat) (body : Bytes)
  deriving DecidableEq, Repr

/-- Why a download failed. -/
inductive HttpFault where
  | notUrl (fault : UrlFault)
  /-- A URL that names no host, or that is not for the web. -/
  | badScheme (url : String)
  /-- A URL that no request can be made for. -/
  | badTarget (url : String)
  | unreachable (url : String)
  /-- An answer that says that there is nothing to download. -/
  | status (code : Nat) (url : String)
  deriving DecidableEq, Repr

/-! ## Targets of requests -/

/-- Whether a text with percent forms stands for a text. -/
def standsForText (cs : List Char) : Bool := (Utf8.decode (Percent.decode (Utf8.encode cs))).isOk

/-- An authority without its user and password, which a request tells apart from its URL. They are
left in the URL if the user is no text. -/
def Authority.withoutCredentials (a : Authority) : Authority :=
  if standsForText a.user && (a.user ≠ [] || a.password.any standsForText) then
    { a with user := [], password := none }
  else a

/-- A URL without its user and password. -/
def Url.withoutCredentials (u : Url) : Url :=
  { u with authority := u.authority.map Authority.withoutCredentials }

/-- Whether a host can stand in a request. -/
def HostName.isTarget : HostName → Bool
  | .domain name => name.all fun c => c ∉ ['"', '\x60', '\x7b', '\x7d']
  | _ => true

/-- The text of the URL that a request for a URL is made for. -/
def requestTarget (url : String) : Except HttpFault String := do
  let u ← (Url.read url).mapError .notUrl
  if !u.hasHost then throw (.badScheme u.text)
  let u := u.withoutCredentials
  if u.scheme ≠ "http".toList ∧ u.scheme ≠ "https".toList then throw (.badScheme u.text)
  else if u.authority.all (·.host.isTarget) && u.text.length < 65535 then return u.text
  else throw (.badTarget u.text)

/-! ## Wording -/

/-- The standard phrase of a status. -/
def reasonPhrase : Nat → String
  | 400 => "Bad Request"
  | 401 => "Unauthorized"
  | 402 => "Payment Required"
  | 403 => "Forbidden"
  | 404 => "Not Found"
  | 405 => "Method Not Allowed"
  | 406 => "Not Acceptable"
  | 407 => "Proxy Authentication Required"
  | 408 => "Request Timeout"
  | 409 => "Conflict"
  | 410 => "Gone"
  | 411 => "Length Required"
  | 412 => "Precondition Failed"
  | 413 => "Payload Too Large"
  | 414 => "URI Too Long"
  | 415 => "Unsupported Media Type"
  | 416 => "Range Not Satisfiable"
  | 417 => "Expectation Failed"
  | 418 => "I\x27m a teapot"
  | 421 => "Misdirected Request"
  | 422 => "Unprocessable Entity"
  | 423 => "Locked"
  | 424 => "Failed Dependency"
  | 426 => "Upgrade Required"
  | 428 => "Precondition Required"
  | 429 => "Too Many Requests"
  | 431 => "Request Header Fields Too Large"
  | 451 => "Unavailable For Legal Reasons"
  | 500 => "Internal Server Error"
  | 501 => "Not Implemented"
  | 502 => "Bad Gateway"
  | 503 => "Service Unavailable"
  | 504 => "Gateway Timeout"
  | 505 => "HTTP Version Not Supported"
  | 506 => "Variant Also Negotiates"
  | 507 => "Insufficient Storage"
  | 508 => "Loop Detected"
  | 510 => "Not Extended"
  | 511 => "Network Authentication Required"
  | _ => "<unknown status code>"

/-- The wordings of a fault and of what lies behind it, each of which repeats the ones after it. -/
def HttpFault.causes : HttpFault → List String
  | .notUrl fault => [s!"builder error: {fault.message}", fault.message]
  | .badScheme url =>
    [s!"builder error for url ({url}): URL scheme is not allowed", "URL scheme is not allowed"]
  | .badTarget url =>
    [s!"builder error for url ({url}): Parsed Url is not a valid Uri",
      "Parsed Url is not a valid Uri"]
  | .unreachable url =>
    let system := "Network is unreachable (os error 101)"
    let connect := s!"tcp connect error: {system}"
    let attempt := s!"error trying to connect: {connect}"
    [s!"error sending request for url ({url}): {attempt}", attempt, connect, system]
  | .status code url =>
    let side := if code < 500 then "client" else "server"
    [s!"HTTP status {side} error ({code} {reasonPhrase code}) for url ({url})"]

/-! ## Downloads -/

/-- What requests for URLs are answered. -/
abbrev Network := String → Reply

/-- A network that cannot be reached. -/
def Network.unreachable : Network := fun _ => .unreachable

/-- The text of a body, faults replaced and without its byte order mark, which says whether the body is
UTF-8 or UTF-16. Without one it is UTF-8. -/
def bodyText (body : Bytes) : List Char :=
  if body.take 2 = [0xFF, 0xFE] then Utf16.decodeLenient .little (body.drop 2)
  else if body.take 2 = [0xFE, 0xFF] then Utf16.decodeLenient .big (body.drop 2)
  else
    match Utf8.decodeLenient body with
    | c :: rest => if c = byteOrderMark then rest else c :: rest
    | [] => []

/-- The text that a URL leads to. -/
def download (network : Network) (url : String) : Except HttpFault String := do
  let url ← requestTarget url
  match network url with
  | .unreachable => .error (.unreachable url)
  | .answer status body =>
    if 400 ≤ status ∧ status < 600 then .error (.status status url)
    else return String.ofList (bodyText body)

end StoryPlayer.Host
