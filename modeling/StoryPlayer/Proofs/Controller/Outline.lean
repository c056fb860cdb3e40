import StoryPlayer.Controller.Room
import Mathlib.Data.List.Nodup
import Mathlib.Data.List.Range

/-!
# Callers, attempts and answers in outline

What matters of callers who load at once is who came for what, who is still there, who has been
answered what, and which attempts have begun and ended. An outline holds just that. Five things can
happen to it, and each keeps it orderly.

* `Ledger`: attempts are made one after another, until one of them succeeds.
* `Outline.Orderly`: the invariant of callers, attempts and answers.
* `Outline.Orderly.arrive`, `.command`, `.dismiss`, `.start`, `.finish`: the five things.
* `Outline.Orderly.mem_answers_started_iff` and those after it: what answers tell.
-/

namespace StoryPlayer

/-! ## Milestones -/

namespace Milestone

variable {history past : List Milestone} {caller : CallerId} {resource : String}

/-- The caller and the story of an attempt that begins. -/
def begun? : Milestone → Option (CallerId × String)
  | .began caller resource => some (caller, resource)
  | .ended _ _ _ => none

/-- The caller and the story of an attempt that ends. -/
def ended? : Milestone → Option (CallerId × String)
  | .began _ _ => none
  | .ended caller resource _ => some (caller, resource)

/-- The attempts that have begun, in order. -/
def beginnings (history : List Milestone) : List (CallerId × String) := history.filterMap begun?

/-- The attempts that have ended, in order. -/
def endings (history : List Milestone) : List (CallerId × String) := history.filterMap ended?

theorem mem_beginnings : (caller, resource) ∈ beginnings history ↔ .began caller resource ∈ history := by
  rw [beginnings, List.mem_filterMap]
  constructor
  · rintro ⟨m, hm, hb⟩
    cases m with
    | began c r =>
      cases hb
      exact hm
    | ended c r result => cases hb
  · intro h
    exact ⟨_, h, rfl⟩

@[simp] theorem beginnings_concat_began (history : List Milestone) (caller : CallerId)
    (resource : String) :
    beginnings (history ++ [.began caller resource]) = beginnings history ++ [(caller, resource)] := by
  rw [beginnings, List.filterMap_append]
  rfl

@[simp] theorem beginnings_concat_ended (history : List Milestone) (caller : CallerId)
    (resource : String) (result : Except LoadError Unit) :
    beginnings (history ++ [.ended caller resource result]) = beginnings history := by
  rw [beginnings, List.filterMap_append]
  exact List.append_nil _

@[simp] theorem endings_concat_began (history : List Milestone) (caller : CallerId)
    (resource : String) : endings (history ++ [.began caller resource]) = endings history := by
  rw [endings, List.filterMap_append]
  exact List.append_nil _

@[simp] theorem endings_concat_ended (history : List Milestone) (caller : CallerId)
    (resource : String) (result : Except LoadError Unit) :
    endings (history ++ [.ended caller resource result]) =
      endings history ++ [(caller, resource)] := by
  rw [endings, List.filterMap_append]
  rfl

end Milestone

/-! ## Attempts, one after another -/

open Milestone (beginnings endings)

/-- Attempts are made one after another, until one of them succeeds and its story is stored. -/
structure Ledger (history : List Milestone) (running : Option (CallerId × String))
    (resource? : Option String) (attempts : Nat) : Prop where
  attempts_eq : attempts = (beginnings history).length
  inFlight : (beginnings history).length = (endings history).length + running.toList.length
  neverTwo : ∀ past, past <+: history → (beginnings past).length ≤ (endings past).length + 1
  runningBegun : ∀ p ∈ running, p ∈ beginnings history
  endedBegun : ∀ caller id result, .ended caller id result ∈ history →
    (caller, id) ∈ beginnings history
  unloaded : resource? = none → ∀ caller id, .ended caller id (.ok ()) ∉ history
  loaded : ∀ resource, resource? = some resource → running = none ∧
    ∃ past caller, history = past ++ [.ended caller resource (.ok ())] ∧
      ∀ c id, .ended c id (.ok ()) ∉ past

namespace Ledger

variable {history past later : List Milestone} {running : Option (CallerId × String)}
  {resource? : Option String} {attempts : Nat} {caller : CallerId} {p : CallerId × String}

theorem nil : Ledger [] none none 0 where
  attempts_eq := rfl
  inFlight := rfl
  neverTwo := by
    intro past hpast
    rw [List.prefix_nil.mp hpast]
    exact Nat.zero_le 1
  runningBegun := nofun
  endedBegun := nofun
  unloaded := nofun
  loaded := nofun

theorem eq_none_of_running (h : Ledger history (some p) resource? attempts) : resource? = none := by
  cases hs : resource? with
  | none => rfl
  | some resource => cases (h.loaded resource hs).1

theorem start (h : Ledger history none none attempts) (p : CallerId × String) :
    Ledger (history ++ [.began p.1 p.2]) (some p) none (attempts + 1) := by
  have hflight : (beginnings history).length = (endings history).length := h.inFlight
  refine ⟨?_, ?_, ?_, ?_, ?_, ?_, nofun⟩
  · rw [Milestone.beginnings_concat_began, List.length_append, ← h.attempts_eq]
    rfl
  · rw [Milestone.beginnings_concat_began, Milestone.endings_concat_began, List.length_append,
      hflight]
    rfl
  · intro past hpast
    rcases List.prefix_concat_iff.mp hpast with rfl | hpast
    · rw [Milestone.beginnings_concat_began, Milestone.endings_concat_began, List.length_append,
        hflight]
      exact Nat.le_refl _
    · exact h.neverTwo past hpast
  · intro q hq
    cases Option.mem_some_iff.mp hq
    rw [Milestone.beginnings_concat_began]
    exact List.mem_append_right _ (List.mem_singleton_self _)
  · intro caller id result hm
    rw [Milestone.beginnings_concat_began]
    rcases List.mem_append.mp hm with hm | hm
    · exact List.mem_append_left _ (h.endedBegun caller id result hm)
    · cases List.mem_singleton.mp hm
  · intro _ caller id hm
    rcases List.mem_append.mp hm with hm | hm
    · exact h.unloaded rfl caller id hm
    · cases List.mem_singleton.mp hm

theorem finish (h : Ledger history (some p) resource? attempts) (result : Except LoadError Unit) :
    Ledger (history ++ [.ended p.1 p.2 result]) none
      (match result with
      | .ok _ => some p.2
      | .error _ => resource?) attempts := by
  have hflight : (beginnings history).length = (endings history).length + 1 := h.inFlight
  cases h.eq_none_of_running
  refine ⟨?_, ?_, ?_, nofun, ?_, ?_, ?_⟩
  · rw [Milestone.beginnings_concat_ended]
    exact h.attempts_eq
  · rw [Milestone.beginnings_concat_ended, Milestone.endings_concat_ended, List.length_append,
      hflight]
    rfl
  · intro past hpast
    rcases List.prefix_concat_iff.mp hpast with rfl | hpast
    · rw [Milestone.beginnings_concat_ended, Milestone.endings_concat_ended, List.length_append,
        hflight]
      exact Nat.le_succ _
    · exact h.neverTwo past hpast
  · intro caller id result' hm
    rw [Milestone.beginnings_concat_ended]
    rcases List.mem_append.mp hm with hm | hm
    · exact h.endedBegun caller id result' hm
    · cases List.mem_singleton.mp hm
      exact h.runningBegun p rfl
  · intro hs caller id hm
    cases result with
    | ok _ => cases hs
    | error e =>
      rcases List.mem_append.mp hm with hm | hm
      · exact h.unloaded rfl caller id hm
      · cases List.mem_singleton.mp hm
  · intro resource hs
    cases result with
    | ok _ =>
      cases hs
      exact ⟨rfl, history, p.1, rfl, h.unloaded rfl⟩
    | error e => cases hs

/-- Nothing happens to attempts after one has succeeded. -/
theorem eq_nil_of_success (h : Ledger history running resource? attempts) {id : String}
    (hh : history = past ++ .ended caller id (.ok ()) :: later) : later = [] := by
  have hm : Milestone.ended caller id (.ok ()) ∈ history := by
    rw [hh]
    exact List.mem_append_right _ List.mem_cons_self
  cases hs : resource? with
  | none => exact absurd hm (h.unloaded hs caller id)
  | some resource =>
    obtain ⟨-, before, c, hlast, hbefore⟩ := h.loaded resource hs
    cases later.eq_nil_or_concat with
    | inl hl => exact hl
    | inr hl =>
      obtain ⟨middle, last, rfl⟩ := hl
      rw [hh, List.concat_eq_append, ← List.cons_append, ← List.append_assoc] at hlast
      obtain ⟨hpast, -⟩ := List.append_inj' hlast rfl
      refine absurd ?_ (hbefore caller id)
      rw [← hpast]
      exact List.mem_append_right _ List.mem_cons_self

/-- The story that is stored is the one of the attempt that succeeded. -/
theorem eq_some_iff (h : Ledger history running resource? attempts) (resource : String) :
    resource? = some resource ↔ ∃ caller, .ended caller resource (.ok ()) ∈ history := by
  constructor
  · intro hs
    obtain ⟨-, past, caller, hlast, -⟩ := h.loaded resource hs
    exact ⟨caller, by rw [hlast]; exact List.mem_append_right _ (List.mem_singleton_self _)⟩
  · rintro ⟨caller, hm⟩
    cases hs : resource? with
    | none => exact absurd hm (h.unloaded hs caller resource)
    | some other =>
      obtain ⟨-, past, c, hlast, hpast⟩ := h.loaded other hs
      rw [hlast] at hm
      rcases List.mem_append.mp hm with hm | hm
      · exact absurd hm (hpast caller resource)
      · cases List.mem_singleton.mp hm
        rfl

end Ledger

/-! ## Outlines -/

structure Outline where
  /-- The requests of all callers, whose numbers are their places here. -/
  requests : List Request
  /-- Callers who came to load and have yet to get their turn. -/
  idle : List (CallerId × String)
  /-- The caller whose attempt is under way. -/
  running : Option (CallerId × String)
  answers : List (CallerId × Answer)
  history : List Milestone
  /-- The story of the session that is stored. -/
  resource? : Option String
  /-- How many attempts the controller has seen. -/
  attempts : Nat

namespace Outline

variable {o : Outline} {caller : CallerId} {p : CallerId × String} {rest : List (CallerId × String)}

/-- What an answer says is borne out by the history. -/
def Justified (o : Outline) (caller : CallerId) : Answer → Prop
  | .handled _ => ∃ command, o.requests[caller]? = some (.input command)
  | .loaded (.ok .started) => ∃ id, .ended caller id (.ok ()) ∈ o.history
  | .loaded (.error e) => ∃ id, .ended caller id (.error e) ∈ o.history
  | .loaded (.ok .alreadyActive) =>
    o.resource?.isSome ∧ (∃ id, o.requests[caller]? = some (.load id)) ∧
      ∀ id, (caller, id) ∉ beginnings o.history

structure Orderly (o : Outline) : Prop
    extends Ledger o.history o.running o.resource? o.attempts where
  /-- Each caller is answered, has an attempt under way or is idle, and only one of these. -/
  places : (o.answers.map Prod.fst ++ o.running.toList.map Prod.fst ++ o.idle.map Prod.fst).Perm
    (List.range o.requests.length)
  own : ∀ p ∈ o.running.toList ++ o.idle, o.requests[p.1]? = some (.load p.2)
  begunOwn : ∀ p ∈ beginnings o.history, o.requests[p.1]? = some (.load p.2)
  begunOnce : ((beginnings o.history).map Prod.fst).Nodup
  /-- Who has begun an attempt is still at it or has been answered. -/
  begunGone : ∀ p ∈ beginnings o.history,
    p ∈ o.running ∨ p.1 ∈ o.answers.map Prod.fst
  endedAnswered : ∀ caller id result, .ended caller id result ∈ o.history →
    (caller, .loaded (result.map fun _ => .started)) ∈ o.answers
  justified : ∀ a ∈ o.answers, o.Justified a.1 a.2

/-- The outline before anyone has come. -/
def empty : Outline := ⟨[], [], none, [], [], none, 0⟩

theorem orderly_empty : Orderly empty where
  toLedger := .nil
  places := .nil
  own := nofun
  begunOwn := nofun
  begunOnce := .nil
  begunGone := nofun
  endedAnswered := nofun
  justified := nofun

/-! ## The five things that happen -/

theorem getElem?_concat_of_eq_some {α : Type} {xs : List α} {i : Nat} {x : α}
    (h : xs[i]? = some x) (y : α) : (xs ++ [y])[i]? = some x := by
  obtain ⟨hi, -⟩ := List.getElem?_eq_some_iff.mp h
  rw [List.getElem?_append_left hi, h]

/-- An answer remains justified while more happens, unless its caller begins an attempt. -/
theorem Justified.mono {o' : Outline} {answer : Answer} (h : o.Justified caller answer)
    (hrequests : ∀ r, o.requests[caller]? = some r → o'.requests[caller]? = some r)
    (hhistory : ∀ m ∈ o.history, m ∈ o'.history)
    (hresource : o.resource?.isSome → o'.resource?.isSome)
    (hbegun : ∀ id, (caller, id) ∈ beginnings o'.history → (caller, id) ∈ beginnings o.history) :
    o'.Justified caller answer := by
  cases answer with
  | handled outcome =>
    obtain ⟨command, hr⟩ := h
    exact ⟨command, hrequests _ hr⟩
  | loaded result =>
    cases result with
    | error e =>
      obtain ⟨id, hm⟩ := h
      exact ⟨id, hhistory _ hm⟩
    | ok outcome =>
      cases outcome with
      | started =>
        obtain ⟨id, hm⟩ := h
        exact ⟨id, hhistory _ hm⟩
      | alreadyActive =>
        obtain ⟨hl, ⟨id, hr⟩, hb⟩ := h
        exact ⟨hresource hl, ⟨id, hrequests _ hr⟩, fun id hid => hb id (hbegun id hid)⟩

/-- The order of those who are idle does not matter. -/
theorem Orderly.perm (h : o.Orderly) {idle : List (CallerId × String)} (hp : o.idle.Perm idle) :
    Orderly { o with idle } :=
  { h with
    places := ((List.Perm.map Prod.fst hp.symm).append_left _).trans h.places
    own := by
      intro p hm
      refine h.own p ?_
      rcases List.mem_append.mp hm with hm | hm
      · exact List.mem_append_left _ hm
      · exact List.mem_append_right _ (hp.symm.subset hm)
    justified := fun a ha => (h.justified a ha).mono (fun _ hr => hr) (fun _ hm => hm) id
      (fun _ hb => hb) }

/-- **A caller arrives** who wants a story. -/
theorem Orderly.arrive (h : o.Orderly) (resource : String) :
    Orderly { o with
      requests := o.requests ++ [.load resource]
      idle := o.idle ++ [(o.requests.length, resource)] } :=
  { h with
    places := by
      simp only [List.map_append, List.length_append, List.length_singleton, List.range_succ]
      rw [← List.append_assoc]
      exact h.places.append_right _
    own := by
      intro p hm
      rw [← List.append_assoc] at hm
      rcases List.mem_append.mp hm with hm | hm
      · exact getElem?_concat_of_eq_some (h.own p hm) _
      · cases List.mem_singleton.mp hm
        exact List.getElem?_concat_length
    begunOwn := fun p hb => getElem?_concat_of_eq_some (h.begunOwn p hb) _
    justified := fun a ha => (h.justified a ha).mono
      (fun _ hr => getElem?_concat_of_eq_some hr _) (fun _ hm => hm) id (fun _ hb => hb) }

/-- **A command** comes in and is answered. -/
theorem Orderly.command (h : o.Orderly) (command : Command) (outcome : InputOutcome) :
    Orderly { o with
      requests := o.requests ++ [.input command]
      answers := o.answers ++ [(o.requests.length, .handled outcome)] } :=
  { h with
    places := by
      simp only [List.map_append, List.map_singleton, List.length_append, List.length_singleton,
        List.range_succ]
      refine .trans ?_ (h.places.append_right [o.requests.length])
      simp only [List.append_assoc]
      refine List.Perm.append_left _ ?_
      exact List.perm_append_comm.trans (by simp only [List.append_assoc]; exact .refl _)
    own := fun p hm => getElem?_concat_of_eq_some (h.own p hm) _
    begunOwn := fun p hb => getElem?_concat_of_eq_some (h.begunOwn p hb) _
    begunGone := by
      intro p hb
      rcases h.begunGone p hb with hr | ha
      · exact .inl hr
      · exact .inr (by rw [List.map_append]; exact List.mem_append_left _ ha)
    endedAnswered := fun caller id result hm =>
      List.mem_append_left _ (h.endedAnswered caller id result hm)
    justified := by
      intro a ha
      rcases List.mem_append.mp ha with ha | ha
      · exact (h.justified a ha).mono (fun _ hr => getElem?_concat_of_eq_some hr _)
          (fun _ hm => hm) id (fun _ hb => hb)
      · cases List.mem_singleton.mp ha
        exact ⟨command, List.getElem?_concat_length⟩ }

/-- Who is idle has begun nothing yet and has not been answered. -/
theorem Orderly.idle_alone (h : o.Orderly) (hp : p ∈ o.idle) :
    p.1 ∉ o.answers.map Prod.fst ∧ ∀ id, (p.1, id) ∉ beginnings o.history := by
  have hnodup : (o.answers.map Prod.fst ++ o.running.toList.map Prod.fst ++
      o.idle.map Prod.fst).Nodup := h.places.nodup_iff.mpr List.nodup_range
  have hidle : p.1 ∈ o.idle.map Prod.fst := List.mem_map_of_mem hp
  have hout := List.disjoint_right.mp (List.disjoint_of_nodup_append hnodup) hidle
  rw [List.mem_append, not_or] at hout
  obtain ⟨hanswered, hrunning⟩ := hout
  refine ⟨hanswered, fun id hb => ?_⟩
  rcases h.begunGone _ hb with hr | ha
  · exact hrunning (List.mem_map.mpr ⟨(p.1, id), Option.mem_toList.mpr hr, rfl⟩)
  · exact hanswered ha

/-- **A caller is dismissed** because there is a session. -/
theorem Orderly.dismiss (h : Orderly { o with idle := p :: rest }) (hl : o.resource?.isSome) :
    Orderly { o with
      idle := rest
      answers := o.answers ++ [(p.1, .loaded (.ok .alreadyActive))] } :=
  { h with
    places := by
      refine .trans ?_ h.places
      simp only [List.map_append, List.map_cons, List.append_assoc]
      refine List.Perm.append_left _ ?_
      exact (List.perm_append_comm_assoc _ _ _)
    own := by
      intro q hm
      refine h.own q ?_
      rcases List.mem_append.mp hm with hm | hm
      · exact List.mem_append_left _ hm
      · exact List.mem_append_right _ (List.mem_cons_of_mem _ hm)
    begunGone := by
      intro q hb
      rcases h.begunGone q hb with hr | ha
      · exact .inl hr
      · exact .inr (by rw [List.map_append]; exact List.mem_append_left _ ha)
    endedAnswered := fun caller id result hm =>
      List.mem_append_left _ (h.endedAnswered caller id result hm)
    justified := by
      intro a ha
      rcases List.mem_append.mp ha with ha | ha
      · exact (h.justified a ha).mono (fun _ hr => hr) (fun _ hm => hm) id (fun _ hb => hb)
      · cases List.mem_singleton.mp ha
        have hp : p ∈ p :: rest := List.mem_cons_self
        exact ⟨hl, ⟨p.2, h.own p (List.mem_append_right _ hp)⟩, (h.idle_alone hp).2⟩ }

/-- **A caller begins an attempt** because there is no session and nobody else is at it. -/
theorem Orderly.start (h : Orderly { o with idle := p :: rest }) (hr : o.running = none)
    (hl : o.resource? = none) :
    Orderly { o with
      idle := rest
      running := some p
      history := o.history ++ [.began p.1 p.2]
      attempts := o.attempts + 1 } := by
  have hp : p ∈ p :: rest := List.mem_cons_self
  obtain ⟨hanswered, hbegun⟩ := h.idle_alone hp
  have hown := h.own p (List.mem_append_right _ hp)
  have hledger : Ledger o.history none none o.attempts := by
    have hbefore := h.toLedger
    simpa only [hr, hl] using hbefore
  refine
    { toLedger := by simpa only [hl] using hledger.start p
      places := ?_, own := ?_, begunOwn := ?_, begunOnce := ?_, begunGone := ?_,
      endedAnswered := ?_, justified := ?_ }
  · have hplaces := h.places
    simpa [hr] using hplaces
  · intro q hm
    rcases List.mem_append.mp hm with hm | hm
    · cases List.mem_singleton.mp hm
      exact hown
    · exact h.own q (List.mem_append_right _ (List.mem_cons_of_mem _ hm))
  · intro q hb
    rw [Milestone.beginnings_concat_began] at hb
    rcases List.mem_append.mp hb with hb | hb
    · exact h.begunOwn q hb
    · cases List.mem_singleton.mp hb
      exact hown
  · rw [Milestone.beginnings_concat_began, List.map_append]
    refine List.Nodup.append h.begunOnce (List.nodup_singleton _) ?_
    rw [List.map_singleton, List.disjoint_singleton]
    intro hm
    obtain ⟨q, hq, hcaller⟩ := List.mem_map.mp hm
    exact hbegun q.2 (hcaller ▸ hq)
  · intro q hb
    rw [Milestone.beginnings_concat_began] at hb
    rcases List.mem_append.mp hb with hb | hb
    · rcases h.begunGone q hb with hrun | ha
      · rw [hr] at hrun
        cases hrun
      · exact .inr ha
    · exact .inl (List.mem_singleton.mp hb ▸ rfl)
  · intro caller id result hm
    rcases List.mem_append.mp hm with hm | hm
    · exact h.endedAnswered caller id result hm
    · cases List.mem_singleton.mp hm
  · intro a ha
    refine (h.justified a ha).mono (fun _ hr => hr) (fun _ hm => List.mem_append_left _ hm) id ?_
    intro id hb
    rw [Milestone.beginnings_concat_began] at hb
    rcases List.mem_append.mp hb with hb | hb
    · exact hb
    · have hcaller : a.1 = p.1 := congrArg Prod.fst (List.mem_singleton.mp hb)
      exact absurd (hcaller ▸ List.mem_map_of_mem ha) hanswered

/-- **An attempt ends**, and its caller is answered. -/
theorem Orderly.finish (h : o.Orderly) (hr : o.running = some p)
    (result : Except LoadError Unit) :
    Orderly { o with
      running := none
      answers := o.answers ++ [(p.1, .loaded (result.map fun _ => .started))]
      history := o.history ++ [.ended p.1 p.2 result]
      resource? :=
        match result with
        | .ok _ => some p.2
        | .error _ => o.resource? } := by
  have hledger : Ledger o.history (some p) o.resource? o.attempts := hr ▸ h.toLedger
  refine
    { toLedger := hledger.finish result
      places := ?_, own := ?_, begunOwn := ?_, begunOnce := ?_, begunGone := ?_,
      endedAnswered := ?_, justified := ?_ }
  · have hplaces := h.places
    simpa [hr] using hplaces
  · intro q hm
    exact h.own q (List.mem_append_right _ hm)
  · intro q hb
    rw [Milestone.beginnings_concat_ended] at hb
    exact h.begunOwn q hb
  · rw [Milestone.beginnings_concat_ended]
    exact h.begunOnce
  · intro q hb
    rw [Milestone.beginnings_concat_ended] at hb
    rw [List.map_append]
    rcases h.begunGone q hb with hrun | ha
    · rw [hr] at hrun
      cases hrun
      exact .inr (List.mem_append_right _ (List.mem_singleton_self _))
    · exact .inr (List.mem_append_left _ ha)
  · intro caller id result' hm
    rcases List.mem_append.mp hm with hm | hm
    · exact List.mem_append_left _ (h.endedAnswered caller id result' hm)
    · cases List.mem_singleton.mp hm
      exact List.mem_append_right _ (List.mem_singleton_self _)
  · intro a ha
    rcases List.mem_append.mp ha with ha | ha
    · refine (h.justified a ha).mono (fun _ hr => hr) (fun _ hm => List.mem_append_left _ hm) ?_ ?_
      · intro hs
        rw [hledger.eq_none_of_running] at hs
        cases hs
      · intro id hb
        rw [Milestone.beginnings_concat_ended] at hb
        exact hb
    · cases List.mem_singleton.mp ha
      have hm : Milestone.ended p.1 p.2 result ∈ o.history ++ [.ended p.1 p.2 result] :=
        List.mem_append_right _ (List.mem_singleton_self _)
      cases result with
      | error e => exact ⟨p.2, hm⟩
      | ok _ => exact ⟨p.2, hm⟩

/-! ## What an orderly outline tells -/

theorem Orderly.mem_answers_started_iff (h : o.Orderly) (caller : CallerId) :
    (caller, .loaded (.ok .started)) ∈ o.answers ↔
      ∃ id, .ended caller id (.ok ()) ∈ o.history :=
  ⟨fun ha => h.justified _ ha, fun ⟨id, hm⟩ => h.endedAnswered caller id _ hm⟩

theorem Orderly.mem_answers_error_iff (h : o.Orderly) (caller : CallerId) (e : LoadError) :
    (caller, .loaded (.error e)) ∈ o.answers ↔ ∃ id, .ended caller id (.error e) ∈ o.history :=
  ⟨fun ha => h.justified _ ha, fun ⟨id, hm⟩ => h.endedAnswered caller id _ hm⟩

/-- Of the callers who came for a story and have been answered, those who made no attempt are told
that there was a session already. -/
theorem Orderly.mem_answers_alreadyActive_iff (h : o.Orderly) (caller : CallerId) :
    (caller, .loaded (.ok .alreadyActive)) ∈ o.answers ↔
      (∃ id, o.requests[caller]? = some (.load id)) ∧ (∃ answer, (caller, answer) ∈ o.answers) ∧
        ∀ id, .began caller id ∉ o.history := by
  constructor
  · intro ha
    obtain ⟨-, hrequest, hbegun⟩ := h.justified _ ha
    exact ⟨hrequest, ⟨_, ha⟩, fun id hm => hbegun id (Milestone.mem_beginnings.mpr hm)⟩
  · rintro ⟨⟨id, hrequest⟩, ⟨answer, ha⟩, hbegan⟩
    have hended : ∀ id result, .ended caller id result ∉ o.history := fun id result hm =>
      hbegan id (Milestone.mem_beginnings.mp (h.endedBegun caller id result hm))
    have hjustified := h.justified _ ha
    cases answer with
    | handled outcome =>
      obtain ⟨command, hcommand⟩ := hjustified
      have hboth := hcommand.symm.trans hrequest
      cases hboth
    | loaded result =>
      cases result with
      | error e =>
        obtain ⟨id, hm⟩ := hjustified
        exact absurd hm (hended id _)
      | ok outcome =>
        cases outcome with
        | started =>
          obtain ⟨id, hm⟩ := hjustified
          exact absurd hm (hended id _)
        | alreadyActive => exact ha

end Outline

end StoryPlayer
