import StoryPlayer.Engine.Session

/-!
# Rehearsals

An engine whose attempts and sessions follow a plan, for trying out a player without a story.
-/

namespace StoryPlayer

/-- How a rehearsed session shows what is visible. -/
inductive Shape where
  | push
  | pull
  | both
  deriving DecidableEq, Repr

/-- The plan of one attempt. -/
structure AttemptPlan where
  /-- The views pushed at its start. -/
  pushes : List View
  /-- Why it fails, if it does. -/
  failure : Option String
  /-- What the session shows at its start. -/
  opening : View

namespace AttemptPlan

/-- An attempt that succeeds with nothing to show. -/
def plain : AttemptPlan := ⟨[], none, ⟨[], []⟩⟩

end AttemptPlan

structure Rehearsal where
  shape : Shape
  /-- How many turns each attempt waits. -/
  turns : Nat
  /-- The plans of the attempts; the last one also holds for all further attempts. -/
  attempts : List AttemptPlan
  /-- What a session shows, one after another, upon the command of a name. -/
  replies : List (String × List View)

/-- A session that follows a plan. -/
structure RehearsedSession where
  plan : Rehearsal
  shown : View

namespace RehearsedSession

/-- The views that follow upon a command. -/
def replies (s : RehearsedSession) (c : Command) : List View :=
  ((s.plan.replies.find? fun r => r.1 = c.name).map Prod.snd).getD []

def evaluate (s : RehearsedSession) (c : Command) : RehearsedSession × List View :=
  ({ s with shown := (s.replies c).getLastD s.shown },
    if s.plan.shape = .pull then [] else s.replies c)

def accessors? (s : RehearsedSession) : Option Accessors :=
  if s.plan.shape = .push then none
  else
    let lines := s.shown.text.toArray
    some ⟨lines.size, fun i => lines.getD i "", fun i => s.shown.scene[i]?⟩

instance : Session RehearsedSession := ⟨evaluate, accessors?⟩

end RehearsedSession

namespace Rehearsal

/-- The plan of an attempt. -/
def planOf (r : Rehearsal) (attempt : Nat) : AttemptPlan :=
  r.attempts[attempt]?.getD (r.attempts.getLastD .plain)

/-- The engine that follows a plan. -/
def engine (r : Rehearsal) : Engine RehearsedSession :=
  ⟨fun attempt id =>
    let plan := r.planOf attempt
    let ending : Loading RehearsedSession :=
      match plan.failure with
      | some reason => .failed (.engine s!"{reason} ({id})")
      | none => .ready ⟨r, plan.opening⟩
    plan.pushes.foldr .push (ending.after r.turns)⟩

end Rehearsal

end StoryPlayer
