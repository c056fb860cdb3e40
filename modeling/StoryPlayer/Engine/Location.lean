import StoryPlayer.Engine.LoadError

/-!
# Where scripts come from

A script is named by a URL, or by a path that is either joined to a base URL or read from disk.
-/

namespace StoryPlayer

inductive Location where
  | path (path : String)
  | url (url : String)
  deriving DecidableEq, Repr

namespace Location

/-- Whether a name is a URL by itself. -/
def isUrl (id : String) : Bool :=
  "http://".toList.isPrefixOf id.toList || "https://".toList.isPrefixOf id.toList

/-- A text without the slashes at its start. -/
def trimStartSlashes (cs : List Char) : List Char := cs.dropWhile (· = '/')

/-- A text without the slashes at its end. -/
def trimEndSlashes (cs : List Char) : List Char := (cs.reverse.dropWhile (· = '/')).reverse

/-- The location that a name means under a base URL, if there is one. -/
def resolve (id : String) (baseUrl : Option String) : Location :=
  if isUrl id then .url id
  else
    match baseUrl with
    | some base =>
      .url (String.ofList (trimEndSlashes base.toList ++ '/' :: trimStartSlashes id.toList))
    | none => .path id

/-- A location as messages show it. -/
def display : Location → String
  | .path p => p
  | .url u => u

/-- The text at a location. -/
def fetch (sources : Host.Sources) : Location → Except LoadError String
  | .path p => (sources.readText (utf8 p)).mapError (LoadError.fetch p)
  | .url u => (Host.download sources.request u).mapError (LoadError.http u)

end Location

end StoryPlayer
