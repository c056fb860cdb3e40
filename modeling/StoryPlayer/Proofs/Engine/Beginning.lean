import StoryPlayer.Engine.ScriptEngine
import StoryPlayer.Proofs.Script.Significant
import StoryPlayer.Proofs.Story.Turns

/-!
# How a story begins

A script without significant lines is no story: loading it fails (`load_eq_emptyScript_iff`), and
nothing else fails in this way.  So every session has a token at least, and it has played the first
one when it begins (`outcome_start_eq_ok_iff`).
-/

namespace StoryPlayer

open Script (Token Gives parse significantLines)

namespace ScriptEngine

variable {e : ScriptEngine} {sources : Host.Sources} {id : String}

theorem fetch_ne_emptyScript (location : Location) (place : String) :
    location.fetch sources ≠ .error (.emptyScript place) := by
  cases location with
  | path p =>
    rw [Location.fetch]
    cases sources.readText (utf8 p) with
    | error fault => exact fun h => by cases h
    | ok text => exact fun h => by cases h
  | url u =>
    rw [Location.fetch]
    cases Host.download sources.request u with
    | error fault => exact fun h => by cases h
    | ok text => exact fun h => by cases h

/-- What a text that was fetched is loaded as. -/
theorem load_of_fetch_eq_ok {text : String}
    (h : (Location.resolve id e.baseUrl).fetch sources = .ok text) :
    e.load sources id =
      match parse text with
      | .error err => .error (.parse (Location.resolve id e.baseUrl).display err)
      | .ok [] => .error (.emptyScript (Location.resolve id e.baseUrl).display)
      | .ok ts => .ok ts := by
  rw [load, h]
  change ((parse text).mapError _ >>= _) = _
  cases parse text with
  | error err => rfl
  | ok ts => cases ts <;> rfl

theorem load_of_fetch_eq_error {err : LoadError}
    (h : (Location.resolve id e.baseUrl).fetch sources = .error err) :
    e.load sources id = .error err := by
  rw [load, h]
  rfl

/-- **What is no story.**  Loading fails for lack of tokens just if there are no significant lines. -/
theorem load_eq_emptyScript_iff (place : String) :
    e.load sources id = .error (.emptyScript place) ↔
      place = (Location.resolve id e.baseUrl).display ∧
        ∃ text, (Location.resolve id e.baseUrl).fetch sources = .ok text ∧
          significantLines text = [] := by
  cases hfetch : (Location.resolve id e.baseUrl).fetch sources with
  | error err =>
    rw [load_of_fetch_eq_error hfetch]
    constructor
    · intro h
      rw [Except.error.inj h] at hfetch
      exact absurd hfetch (fetch_ne_emptyScript _ _)
    · rintro ⟨-, text, htext, -⟩
      cases htext
  | ok text =>
    have htext : (∃ text', Except.ok (ε := LoadError) text = .ok text' ∧
        significantLines text' = []) ↔ parse text = .ok [] := by
      simp [Script.parse_eq_ok_nil_iff]
    rw [load_of_fetch_eq_ok hfetch, htext]
    cases parse text with
    | error err => simp
    | ok ts =>
      cases ts with
      | nil => simp [eq_comm]
      | cons t ts => simp

theorem ne_nil_of_load_eq_ok {ts : List Token} (h : e.load sources id = .ok ts) : ts ≠ [] := by
  obtain ⟨text, -, h⟩ := bind_eq_ok_iff.mp h
  obtain ⟨tokens, -, h⟩ := bind_eq_ok_iff.mp h
  split at h
  · cases h
  · next hne =>
    cases h
    simpa using hne

/-! ## Sessions -/

/-- An attempt succeeds just if the script can be loaded. -/
theorem outcome_start (e : ScriptEngine) (sources : Host.Sources) (id : String) :
    (e.start sources id).outcome.2 =
      (e.load sources id).map (ScriptSession.begin e.propagation) := by
  rw [start]
  cases e.load sources id with
  | error err => rfl
  | ok tokens =>
    cases e.propagation with
    | push => rfl
    | pull => rfl

theorem rest_begin_suffix (p : Propagation) (first : Token) (rest : List Token) :
    (ScriptSession.begin p (first :: rest)).story.rest <:+ rest :=
  Story.rest_play_cons_suffix .empty first rest

/-- **How a session begins.**  It plays the script that was loaded, which has a first token, and what
is left to play is what stands behind this token, or less. -/
theorem outcome_start_eq_ok_iff (session : ScriptSession) :
    (e.start sources id).outcome.2 = .ok session ↔
      ∃ first rest, e.load sources id = .ok (first :: rest) ∧
        session = .begin e.propagation (first :: rest) ∧ session.story.rest <:+ rest := by
  rw [outcome_start]
  constructor
  · intro h
    cases hload : e.load sources id with
    | error err =>
      rw [hload] at h
      cases h
    | ok ts =>
      rw [hload] at h
      cases h
      obtain ⟨first, rest, rfl⟩ := List.exists_cons_of_ne_nil (ne_nil_of_load_eq_ok hload)
      exact ⟨first, rest, rfl, rfl, rest_begin_suffix _ first rest⟩
  · rintro ⟨first, rest, hload, rfl, -⟩
    rw [hload]
    rfl

end ScriptEngine

/-- **Every significant line counts, and no session begins with an empty story.**  The tokens of a
script come from its significant lines, some from each; a script without such lines is not loaded;
and a session has played a token when it begins. -/
theorem every_significant_line_counts (e : ScriptEngine) (sources : Host.Sources) (id : String) :
    (∀ s ts, parse s = .ok ts ↔
      ∃ parts, List.Forall₂ Gives (significantLines s) parts ∧ ts = parts.flatten) ∧
    (∀ s, parse s = .ok [] ↔ significantLines s = []) ∧
    (∀ place, e.load sources id = .error (.emptyScript place) ↔
      place = (Location.resolve id e.baseUrl).display ∧
        ∃ text, (Location.resolve id e.baseUrl).fetch sources = .ok text ∧
          significantLines text = []) ∧
    ∀ session, (e.start sources id).outcome.2 = .ok session ↔
      ∃ first rest, e.load sources id = .ok (first :: rest) ∧
        session = .begin e.propagation (first :: rest) ∧ session.story.rest <:+ rest :=
  ⟨Script.parse_eq_ok_iff, Script.parse_eq_ok_nil_iff, ScriptEngine.load_eq_emptyScript_iff,
    ScriptEngine.outcome_start_eq_ok_iff⟩

end StoryPlayer
