import StoryPlayer.App

/-!
# The player on a terminal that may fail

Any operation of a terminal may fail, and its account says which have.  Drawing either succeeds as a
whole or ends the player (`App.redrawn_ok`).  Attaching and detaching the listeners stop where an
operation fails (`TerminalInput.attach_cases`, `TerminalInput.detach_cases`); they draw nothing.

* `Terminal.tried`: a terminal after some operations, each with its outcome.
* `App.mount_cases`, `App.detaches_release`: mounting a story and giving it up.
-/

namespace StoryPlayer

open Screen (Ansi)

namespace Terminal

/-- A terminal after some operations that have succeeded or not. -/
def tried (t : Terminal) (entries : List (TerminalAction × Bool)) : Terminal :=
  { t with account := t.account ++ entries }

@[simp] theorem tried_tried (t : Terminal) (first later : List (TerminalAction × Bool)) :
    (t.tried first).tried later = t.tried (first ++ later) := by
  simp [tried]

@[simp] theorem size_tried (t : Terminal) (entries : List (TerminalAction × Bool)) :
    (t.tried entries).size = t.size := rfl

@[simp] theorem reportsReleases_tried (t : Terminal) (entries : List (TerminalAction × Bool)) :
    (t.tried entries).reportsReleases = t.reportsReleases := rfl

/-- An operation succeeds or fails, and is entered into the account. -/
theorem perform_cases (t : Terminal) (a : TerminalAction) :
    t.perform a = (.ok (), t.tried [(a, true)]) ∨
      ∃ e, t.perform a = (.error e, t.tried [(a, false)]) := by
  rw [perform]
  cases t.failure t.account.length with
  | none => exact .inl rfl
  | some e => exact .inr ⟨e, rfl⟩

theorem exists_perform_snd (t : Terminal) (a : TerminalAction) :
    ∃ ok, (t.perform a).2 = t.tried [(a, ok)] := by
  rcases perform_cases t a with h | ⟨e, h⟩
  · exact ⟨true, congrArg Prod.snd h⟩
  · exact ⟨false, congrArg Prod.snd h⟩

/-- The picture that an operation draws. -/
def picture? : TerminalAction → Option Picture
  | .draw p => some p
  | _ => none

theorem pictures_tried (t : Terminal) (entries : List (TerminalAction × Bool)) :
    (t.tried entries).pictures =
      t.pictures ++ ((entries.filter fun e => e.2).map Prod.fst).filterMap picture? := by
  have hpictures (t : Terminal) : t.pictures = t.done.filterMap picture? := rfl
  rw [hpictures, hpictures, done, done, tried, List.filter_append, List.map_append,
    List.filterMap_append]

/-- What draws nothing leaves the pictures as they are. -/
theorem pictures_tried_of_forall (t : Terminal) {entries : List (TerminalAction × Bool)}
    (h : ∀ e ∈ entries, picture? e.1 = none) : (t.tried entries).pictures = t.pictures := by
  have hnone : ((entries.filter fun e => e.2).map Prod.fst).filterMap picture? = [] := by
    rw [List.filterMap_eq_nil_iff]
    intro a ha
    obtain ⟨e, he, rfl⟩ := List.mem_map.mp ha
    exact h e (List.mem_filter.mp he).1
  rw [pictures_tried, hnone, List.append_nil]

end Terminal

/-! ## Listeners -/

namespace TerminalInput

/-- Attaching stops with the first operation that fails, unless that is the question for the
keyboard. -/
inductive Attaches (t : Terminal) : Except SurfaceError Device.Trigger → TerminalInput → Prop
  | refused (e : SurfaceError) (enhanced : Bool) :
      Attaches t (.error e) ⟨t.tried [(.write [.enableMouse], false)], enhanced⟩
  | plain (asked : Bool) :
      Attaches t (.ok .press)
        ⟨t.tried [(.write [.enableMouse], true), (.write [.askKeyboard, .askDevice], asked)], false⟩
  | refusedReports (e : SurfaceError) :
      Attaches t (.error e)
        ⟨t.tried [(.write [.enableMouse], true), (.write [.askKeyboard, .askDevice], true),
          (.write [.pushKeyboard], false)], true⟩
  | reports :
      Attaches t (.ok .release)
        ⟨t.tried [(.write [.enableMouse], true), (.write [.askKeyboard, .askDevice], true),
          (.write [.pushKeyboard], true)], true⟩

theorem attach_cases (t : Terminal) (enhanced : Bool) :
    Attaches t (attach ⟨t, enhanced⟩).1 (attach ⟨t, enhanced⟩).2 := by
  rw [attach]
  rcases t.perform_cases (.write [.enableMouse]) with hmouse | ⟨e, hmouse⟩
  · simp only [hmouse]
    rcases (t.tried [(.write [.enableMouse], true)]).perform_cases
      (.write [.askKeyboard, .askDevice]) with hask | ⟨e, hask⟩
    · simp only [hask, Terminal.tried_tried, List.cons_append, List.nil_append, Except.toBool,
        Bool.true_and, Terminal.reportsReleases_tried]
      cases t.reportsReleases with
      | false => exact .plain true
      | true =>
        rcases (t.tried [(.write [.enableMouse], true),
          (.write [.askKeyboard, .askDevice], true)]).perform_cases (.write [.pushKeyboard]) with
          hpush | ⟨e, hpush⟩
        · simp only [hpush, Terminal.tried_tried]
          exact .reports
        · simp only [hpush, Terminal.tried_tried]
          exact .refusedReports e
    · simp only [hask, Terminal.tried_tried]
      exact .plain false
  · simp only [hmouse]
    exact .refused e enhanced

/-- So does detaching. -/
inductive Detaches (t : Terminal) (enhanced : Bool) : TerminalInput → Prop
  | refused (he : enhanced = true) :
      Detaches t enhanced ⟨t.tried [(.write [.popKeyboard], false)], false⟩
  | reports (he : enhanced = true) (ok : Bool) :
      Detaches t enhanced
        ⟨t.tried [(.write [.popKeyboard], true), (.write [.disableMouse], ok)], false⟩
  | plain (he : enhanced = false) (ok : Bool) :
      Detaches t enhanced ⟨t.tried [(.write [.disableMouse], ok)], false⟩

theorem detach_cases (t : Terminal) (enhanced : Bool) :
    Detaches t enhanced (detach ⟨t, enhanced⟩).2 := by
  rw [detach]
  cases enhanced with
  | false =>
    obtain ⟨ok, h⟩ := t.exists_perform_snd (.write [.disableMouse])
    simp only [Bool.false_eq_true, if_false, h]
    exact .plain rfl ok
  | true =>
    rcases t.perform_cases (.write [.popKeyboard]) with hpop | ⟨e, hpop⟩
    · obtain ⟨ok, h⟩ :=
        (t.tried [(.write [.popKeyboard], true)]).exists_perform_snd (.write [.disableMouse])
      simp only [if_true, hpop, h, Terminal.tried_tried]
      exact .reports rfl ok
    · simp only [if_true, hpop]
      exact .refused rfl

/-- Neither draws. -/
theorem Attaches.pictures {t : Terminal} {result : Except SurfaceError Device.Trigger}
    {i : TerminalInput} (h : Attaches t result i) :
    i.terminal.pictures = t.pictures ∧ i.terminal.size = t.size := by
  cases h with
  | _ =>
    refine ⟨t.pictures_tried_of_forall ?_, rfl⟩
    simp [Terminal.picture?]

theorem Detaches.pictures {t : Terminal} {enhanced : Bool} {i : TerminalInput}
    (h : Detaches t enhanced i) :
    i.terminal.pictures = t.pictures ∧ i.terminal.size = t.size := by
  cases h with
  | _ =>
    refine ⟨t.pictures_tried_of_forall ?_, rfl⟩
    simp [Terminal.picture?]

end TerminalInput

/-! ## The player -/

namespace App

variable {σ : Type} {a a' : App σ} {flow : Flow} {t : Terminal}

/-- Drawing stops with the first operation that fails, -/
theorem redrawn_cases (a : App σ) :
    (∃ e, a.redrawn = (.error e, a.withTerminal (a.terminal.tried [(.readSize, false)]))) ∨
      (∃ e, a.redrawn = (.error e, a.withTerminal
        (a.terminal.tried [(.readSize, true), (.draw (a.picture a.terminal.size), false)]))) ∨
      a.redrawn = (.ok .goOn, a.withTerminal
        (a.terminal.tried [(.readSize, true), (.draw (a.picture a.terminal.size), true)])) := by
  rw [redrawn, redraw]
  rcases a.terminal.perform_cases .readSize with hsize | ⟨e, hsize⟩
  · simp only [hsize, Terminal.size_tried]
    rcases (a.terminal.tried [(.readSize, true)]).perform_cases
      (.draw (a.picture a.terminal.size)) with hdraw | ⟨e, hdraw⟩
    · rw [hdraw, Terminal.tried_tried]
      exact .inr (.inr rfl)
    · rw [hdraw, Terminal.tried_tried]
      exact .inr (.inl ⟨_, rfl⟩)
  · simp only [hsize]
    exact .inl ⟨_, rfl⟩

/-- so it succeeds as a whole, or ends the player. -/
theorem redrawn_ok (h : a.redrawn = (.ok flow, a')) :
    flow = .goOn ∧ a' = a.withTerminal
      (a.terminal.tried [(.readSize, true), (.draw (a.picture a.terminal.size), true)]) := by
  rcases redrawn_cases a with ⟨e, herror⟩ | ⟨e, herror⟩ | hok
  · cases h.symm.trans herror
  · cases h.symm.trans herror
  · cases h.symm.trans hok
    exact ⟨rfl, rfl⟩

/-- The player with a new room and these listeners. -/
def boundTo (a : App σ) (i : TerminalInput) (trigger : Device.Trigger) : App σ :=
  { a with
    dispatcher := ⟨i, some ⟨(), trigger⟩⟩
    room := roomFor a.resource
    reader := .subscribe .fresh
    awaiting := true
    state := .loading }

/-- Mounting attaches the listeners and draws everything. Without listeners nothing is mounted. -/
theorem mount_cases (a : App σ) (t : Terminal) :
    (∃ e i, TerminalInput.Attaches t (.error e) i ∧
      a.mount t = (.error (.bind e), { a with dispatcher := ⟨i, none⟩ })) ∨
    ∃ trigger i, TerminalInput.Attaches t (.ok trigger) i ∧
      a.mount t = (a.boundTo i trigger).redrawn := by
  have hattaches := TerminalInput.attach_cases t false
  cases hattach : Surface.attach (⟨t, false⟩ : TerminalInput) with
  | mk result i =>
    rw [show TerminalInput.attach ⟨t, false⟩ = (result, i) from hattach] at hattaches
    cases result with
    | error e =>
      refine .inl ⟨e, i, hattaches, ?_⟩
      simp only [mount, Dispatcher.bind, Dispatcher.unbound, hattach]
    | ok trigger =>
      refine .inr ⟨trigger, i, hattaches, ?_⟩
      simp only [mount, Dispatcher.bind, Dispatcher.unbound, hattach]
      rfl

/-- Whoever gives up listeners detaches them. -/
theorem detaches_release {d : Dispatcher TerminalInput Unit} {r : Route Unit}
    (hr : d.route = some r) :
    TerminalInput.Detaches d.surface.terminal d.surface.enhanced d.release := by
  have hrelease : d.release = (TerminalInput.detach d.surface).2 := by
    rw [Dispatcher.release, Dispatcher.unbind, hr]
    rfl
  rw [hrelease]
  exact TerminalInput.detach_cases d.surface.terminal d.surface.enhanced

end App

end StoryPlayer
