import StoryPlayer.Engine.Location
import StoryPlayer.Engine.Session
import StoryPlayer.Script.Reader
import StoryPlayer.Story

/-!
# The script engine

Loads a script from disk or over the network and plays it wait by wait. It can be set to push each
new view or to be read.
-/

namespace StoryPlayer

/-- How a session shows what is visible. -/
inductive Propagation where
  | push
  | pull
  deriving DecidableEq, Repr

namespace Propagation

def name : Propagation → String
  | .push => "push"
  | .pull => "pull"

/-- The mode that a text names, in upper or lower case letters, or why it names none. -/
def parse (text : String) : Except String Propagation :=
  let lower := String.ofList (text.toList.map Char.toLower)
  if lower = "push" then .ok .push
  else if lower = "pull" then .ok .pull
  else .error s!"unknown propagation mode `{lower}`"

end Propagation

structure ScriptEngine where
  propagation : Propagation
  baseUrl : Option String
  deriving DecidableEq, Repr

/-- A story being played. -/
structure ScriptSession where
  story : Story
  propagation : Propagation

namespace ScriptSession

/-- The session of a script that has played up to its first wait. -/
def begin (propagation : Propagation) (tokens : List Script.Token) : ScriptSession :=
  ⟨(Story.ofTokens tokens).run, propagation⟩

/-- Take a command: one that moves the story on is answered by a new view, if the story is not over
and the session pushes. -/
def evaluate (s : ScriptSession) (c : Command) : ScriptSession × List View :=
  if isAdvancing c.name then
    match s.story.advance? with
    | some story =>
      ({ s with story }, if s.propagation = .push then [story.view] else [])
    | none => (s, [])
  else (s, [])

/-- What can be read of a session that does not push. -/
def accessors? (s : ScriptSession) : Option Accessors :=
  match s.propagation with
  | .push => none
  | .pull =>
    let v := s.story.view
    let lines := v.text.toArray
    some ⟨lines.size, fun i => lines.getD i "", fun i => v.scene[i]?⟩

instance : Session ScriptSession := ⟨evaluate, accessors?⟩

end ScriptSession

namespace ScriptEngine

/-- The tokens of the script that a name leads to; there has to be at least one. -/
def load (e : ScriptEngine) (sources : Host.Sources) (id : String) :
    Except LoadError (List Script.Token) := do
  let location := Location.resolve id e.baseUrl
  let text ← location.fetch sources
  let tokens ← (Script.parse text).mapError (LoadError.parse location.display)
  if tokens.isEmpty then .error (.emptyScript location.display)
  else return tokens

/-- The course of an attempt: the script is read elsewhere while the attempt waits, and a session
that pushes shows its first view at once. -/
def start (e : ScriptEngine) (sources : Host.Sources) (id : String) : Loading ScriptSession :=
  .suspend <|
    match e.load sources id with
    | .error err => .failed err
    | .ok tokens =>
      let session := ScriptSession.begin e.propagation tokens
      match e.propagation with
      | .push => .push session.story.view (.ready session)
      | .pull => .ready session

/-- The engine over what can be read at one time. -/
def engine (e : ScriptEngine) (sources : Host.Sources) : Engine ScriptSession :=
  ⟨fun _ id => e.start sources id⟩

end ScriptEngine

end StoryPlayer
