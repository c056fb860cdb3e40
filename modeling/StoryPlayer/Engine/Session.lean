import StoryPlayer.Command
import StoryPlayer.Engine.LoadError
import StoryPlayer.View

/-!
# Engines and sessions

An engine loads a story and makes a session of it. A session takes commands and shows what is visible
in one of two ways: it pushes views, or it lets itself be read through accessors. It may do both.
-/

namespace StoryPlayer

/-- What is visible, to be read piece by piece. -/
structure Accessors where
  lineCount : Nat
  line : Nat → String
  image : Nat → Option String

/-- A live story. -/
class Session (σ : Type) where
  /-- Take a command; the views are the ones that the session pushes, in order. -/
  evaluate : σ → Command → σ × List View
  /-- The accessors of a session that lets itself be read. -/
  accessors? : σ → Option Accessors

/-- The course of an attempt to load a story, with a session of type `σ` if it succeeds. -/
inductive Loading (σ : Type) where
  | ready (session : σ)
  | failed (e : LoadError)
  /-- The engine pushes a view before it goes on. -/
  | push (v : View) (next : Loading σ)
  /-- The engine waits for something before it goes on. -/
  | suspend (next : Loading σ)

/-- How many steps an attempt takes. -/
def Loading.size {σ : Type} : Loading σ → Nat
  | .ready _ | .failed _ => 1
  | .push _ next | .suspend next => next.size + 1

/-- The views that an attempt pushes, in order, and how it ends. -/
def Loading.outcome {σ : Type} : Loading σ → List View × Except LoadError σ
  | .ready session => ([], .ok session)
  | .failed e => ([], .error e)
  | .push v next => (v :: next.outcome.1, next.outcome.2)
  | .suspend next => next.outcome

/-- The course of the attempt `next` after `n` turns of waiting. -/
def Loading.after {σ : Type} (next : Loading σ) : Nat → Loading σ
  | 0 => next
  | n + 1 => .suspend (next.after n)

/-- An engine: the course of each attempt, given its number among all attempts and the name of the
story. -/
structure Engine (σ : Type) where
  start : Nat → String → Loading σ

end StoryPlayer
