import Mathlib.Data.List.Infix
import Mathlib.Tactic.FinCases
import StoryPlayer.App
import StoryPlayer.Proofs.Screen.Menu

/-!
# The player on a terminal that never fails

On such a terminal every operation of the player succeeds, and of all that is written only what
attaches and detaches the listeners switches reports on and off: frames do not.

* `Terminal.did`: a terminal after some operations.
* `Screen.isSwitch_of_mem_frame`: frames leave the reports of the terminal alone.
* `TerminalInput.attach_eq`, `TerminalInput.detach_eq`: the listeners.
* `TerminalInput.balanced_listeners`: never are two of them attached.
* `App.redrawn_eq`, `App.mount_eq`, `App.writes_release`: the player.
-/

namespace StoryPlayer

open Device (Trigger)
open Screen (Ansi)

/-! ## Switches -/

namespace Screen

/-- Whether a command switches reports of the terminal on or off. -/
def Ansi.isSwitch : Ansi → Bool
  | .enableMouse | .disableMouse | .pushKeyboard | .popKeyboard => true
  | _ => false

/-- What prints a text switches nothing. -/
theorem isSwitch_of_isSome_printed? {c : Ansi} (h : c.printed?.isSome = true) :
    c.isSwitch = false := by
  cases c with
  | print _ => rfl
  | styled _ _ => rfl
  | _ => cases h

theorem isSwitch_of_mem_menuBar {b : KeyBindings} {c : Ansi} (hc : c ∈ menuBar b) :
    c.isSwitch = false := by
  obtain ⟨texts, hmenu, htexts⟩ := exists_menuBar b
  rw [hmenu] at hc
  rcases List.mem_cons.mp hc with rfl | hc
  · rfl
  · exact isSwitch_of_isSome_printed? (htexts c hc)

/-- Frames leave the reports of the terminal alone. -/
theorem isSwitch_of_mem_frame {v : View} {b : KeyBindings} {status : String} {size : Size}
    {c : Ansi} (hc : c ∈ frame v b status size) : c.isSwitch = false := by
  have hdialogue : ∀ c ∈ dialogue v size, c.isSwitch = false := by
    intro c hc
    obtain ⟨p, -, hp⟩ := List.mem_flatMap.mp hc
    fin_cases hp
    · rfl
    · rfl
  simp only [frame, List.mem_append, List.mem_cons, List.not_mem_nil, or_false] at hc
  rcases hc with (((rfl | hc) | rfl | rfl) | hc) | rfl | rfl
  · rfl
  · exact isSwitch_of_mem_menuBar hc
  · rfl
  · rfl
  · exact hdialogue c hc
  · rfl
  · rfl

end Screen

/-! ## Terminals -/

/-- The kind of key event that gives a command on a terminal that reports key releases, or not. -/
def Device.Trigger.ofReports (releases : Bool) : Trigger := if releases then .release else .press

namespace Terminal

variable {t : Terminal}

/-- All operations succeed. -/
def IsReliable (t : Terminal) : Prop := ∀ n, t.failure n = none

/-- A terminal after some operations that have succeeded. -/
def did (t : Terminal) (actions : List TerminalAction) : Terminal :=
  { t with account := t.account ++ actions.map (·, true) }

/-- The commands that have switched reports on and off, in order. -/
def switches (t : Terminal) : List Ansi :=
  (t.done.flatMap TerminalAction.commands).filter Ansi.isSwitch

/-- The kind of key event that gives a command. -/
def trigger (t : Terminal) : Trigger := .ofReports t.reportsReleases

theorem perform_eq (h : t.IsReliable) (a : TerminalAction) : t.perform a = (.ok (), t.did [a]) := by
  rw [perform, h]
  rfl

theorem did_did (t : Terminal) (first later : List TerminalAction) :
    (t.did first).did later = t.did (first ++ later) := by
  simp [did]

theorem perform_did (h : t.IsReliable) (actions : List TerminalAction) (a : TerminalAction) :
    (t.did actions).perform a = (.ok (), t.did (actions ++ [a])) := by
  have hdid : (t.did actions).IsReliable := h
  rw [perform_eq hdid, did_did]

theorem done_did (t : Terminal) (actions : List TerminalAction) :
    (t.did actions).done = t.done ++ actions := by
  simp [done, did, List.filter_map, Function.comp_def]

theorem switches_did (t : Terminal) (actions : List TerminalAction) :
    (t.did actions).switches =
      t.switches ++ (actions.flatMap TerminalAction.commands).filter Ansi.isSwitch := by
  rw [switches, done_did, List.flatMap_append, List.filter_append]
  rfl

/-- Between the two terminals, which are as reliable as each other, exactly these commands have
switched reports on and off. -/
structure Writes (t : Terminal) (commands : List Ansi) (t' : Terminal) : Prop where
  failure : t'.failure = t.failure
  reportsReleases : t'.reportsReleases = t.reportsReleases
  switches : t'.switches = t.switches ++ commands

variable {t' t'' : Terminal} {first later : List Ansi}

theorem Writes.refl (t : Terminal) : t.Writes [] t := ⟨rfl, rfl, (List.append_nil _).symm⟩

theorem Writes.trans (h : t.Writes first t') (h' : t'.Writes later t'') :
    t.Writes (first ++ later) t'' where
  failure := h'.failure.trans h.failure
  reportsReleases := h'.reportsReleases.trans h.reportsReleases
  switches := by rw [h'.switches, h.switches, List.append_assoc]

theorem Writes.isReliable (h : t.Writes first t') (ht : t.IsReliable) : t'.IsReliable := by
  rw [IsReliable, h.failure]
  exact ht

theorem Writes.trigger (h : t.Writes first t') : t'.trigger = t.trigger := by
  rw [Terminal.trigger, h.reportsReleases]
  rfl

theorem writes_did (t : Terminal) (actions : List TerminalAction) :
    t.Writes ((actions.flatMap TerminalAction.commands).filter Ansi.isSwitch) (t.did actions) :=
  ⟨rfl, rfl, switches_did t actions⟩

theorem writes_readEvent (t : Terminal) : t.Writes [] (t.did [.readEvent]) :=
  writes_did t [.readEvent]

/-- Drawing switches nothing. -/
theorem writes_draw (t : Terminal) (p : Picture) : t.Writes [] (t.did [.readSize, .draw p]) := by
  have hdraw : ([TerminalAction.readSize, .draw p].flatMap TerminalAction.commands).filter
      Ansi.isSwitch = [] := by
    rw [List.filter_eq_nil_iff]
    intro c hc
    have hframe : c ∈ p.commands := by simpa [TerminalAction.commands] using hc
    rw [Screen.isSwitch_of_mem_frame hframe]
    exact Bool.false_ne_true
  have hwrites := writes_did t [.readSize, .draw p]
  rw [hdraw] at hwrites
  exact hwrites

theorem writes_size (t : Terminal) (size : Screen.Size) : t.Writes [] { t with size } :=
  ⟨rfl, rfl, (List.append_nil _).symm⟩

end Terminal

/-! ## Listeners -/

namespace TerminalInput

/-- What attaching the listeners switches on. -/
def attaching (releases : Bool) : List Ansi :=
  .enableMouse :: if releases then [.pushKeyboard] else []

/-- What detaching them switches off. -/
def detaching (releases : Bool) : List Ansi :=
  (if releases then [.popKeyboard] else []) ++ [.disableMouse]

theorem attach_eq {t : Terminal} (h : t.IsReliable) (enhanced : Bool) :
    ∃ t', Surface.attach (⟨t, enhanced⟩ : TerminalInput) =
        (.ok t.trigger, ⟨t', t.reportsReleases⟩) ∧
      t.Writes (attaching t.reportsReleases) t' := by
  show ∃ t', attach ⟨t, enhanced⟩ = _ ∧ _
  simp only [attach, Terminal.perform_eq h, Terminal.perform_did h]
  cases hr : t.reportsReleases with
  | false =>
    refine ⟨t.did [.write [.enableMouse], .write [.askKeyboard, .askDevice]], ?_, ?_⟩
    · simp [Terminal.did, Terminal.trigger, Trigger.ofReports, hr]
    · exact t.writes_did [.write [.enableMouse], .write [.askKeyboard, .askDevice]]
  | true =>
    refine ⟨t.did [.write [.enableMouse], .write [.askKeyboard, .askDevice],
      .write [.pushKeyboard]], ?_, ?_⟩
    · simp [Terminal.did, Terminal.trigger, Trigger.ofReports, hr, Except.toBool]
    · exact t.writes_did [.write [.enableMouse], .write [.askKeyboard, .askDevice],
        .write [.pushKeyboard]]

theorem detach_eq {t : Terminal} (h : t.IsReliable) (enhanced : Bool) :
    ∃ t', Surface.detach (⟨t, enhanced⟩ : TerminalInput) = (.ok (), ⟨t', false⟩) ∧
      t.Writes (detaching enhanced) t' := by
  show ∃ t', detach ⟨t, enhanced⟩ = _ ∧ _
  cases enhanced with
  | false =>
    refine ⟨t.did [.write [.disableMouse]], ?_, t.writes_did [.write [.disableMouse]]⟩
    simp [detach, Terminal.perform_eq h]
  | true =>
    refine ⟨t.did [.write [.popKeyboard], .write [.disableMouse]], ?_,
      t.writes_did [.write [.popKeyboard], .write [.disableMouse]]⟩
    simp [detach, Terminal.perform_eq h, Terminal.perform_did h]

end TerminalInput

/-- Something is switched on only while it is off, off only while it is on, and is off in the
end. -/
structure Balanced (on off : Ansi) (switches : List Ansi) : Prop where
  /-- At any time it has been switched on as often as it has been switched off, or once more. -/
  inTurn : ∀ past, past <+: switches →
    past.count off ≤ past.count on ∧ past.count on ≤ past.count off + 1
  settled : switches.count on = switches.count off

theorem balanced_nil (on off : Ansi) : Balanced on off [] where
  inTurn := by
    intro past hpast
    rw [List.prefix_nil.mp hpast]
    simp
  settled := rfl

/-- What starts from where the first has settled does not interfere with it. -/
theorem Balanced.append {on off : Ansi} {first later : List Ansi} (h : Balanced on off first)
    (h' : Balanced on off later) : Balanced on off (first ++ later) where
  inTurn := by
    intro past hpast
    rcases List.prefix_or_prefix_of_prefix hpast (List.prefix_append first later) with
      hfirst | ⟨rest, rfl⟩
    · exact h.inTurn past hfirst
    · have hrest := h'.inTurn rest ((List.prefix_append_right_inj first).mp hpast)
      have hsettled := h.settled
      rw [List.count_append, List.count_append]
      omega
  settled := by
    rw [List.count_append, List.count_append, h.settled, h'.settled]

theorem balanced_of_inits {on off : Ansi} {switches : List Ansi}
    (h : ∀ past ∈ switches.inits,
      past.count off ≤ past.count on ∧ past.count on ≤ past.count off + 1)
    (hsettled : switches.count on = switches.count off) : Balanced on off switches where
  inTurn past hpast := h past ((List.mem_inits past switches).mpr hpast)
  settled := hsettled

namespace TerminalInput

/-- What attaching and detaching the listeners so many times switches on and off. -/
def listeners (releases : Bool) (times : Nat) : List Ansi :=
  (List.replicate times (attaching releases ++ detaching releases)).flatten

theorem listeners_succ (releases : Bool) (times : Nat) :
    listeners releases (times + 1) =
      listeners releases times ++ (attaching releases ++ detaching releases) := by
  rw [listeners, List.replicate_succ', List.flatten_append, List.flatten_singleton]
  rfl

/-- **Never are two attached,** and what has been attached is detached in the end. -/
theorem balanced_listeners (releases : Bool) (times : Nat) :
    Balanced .enableMouse .disableMouse (listeners releases times) ∧
      Balanced .pushKeyboard .popKeyboard (listeners releases times) := by
  have honce : Balanced .enableMouse .disableMouse (attaching releases ++ detaching releases) ∧
      Balanced .pushKeyboard .popKeyboard (attaching releases ++ detaching releases) := by
    cases releases with
    | false =>
      exact ⟨balanced_of_inits (by decide) (by decide), balanced_of_inits (by decide) (by decide)⟩
    | true =>
      exact ⟨balanced_of_inits (by decide) (by decide), balanced_of_inits (by decide) (by decide)⟩
  induction times with
  | zero => exact ⟨balanced_nil _ _, balanced_nil _ _⟩
  | succ n ih =>
    rw [listeners_succ]
    exact ⟨ih.1.append honce.1, ih.2.append honce.2⟩

end TerminalInput

/-! ## The player -/

namespace App

variable {σ : Type} [Session σ] {a : App σ} {t : Terminal}

omit [Session σ] in
theorem redrawn_eq (h : a.terminal.IsReliable) :
    ∃ t', a.redrawn = (.ok .goOn, a.withTerminal t') ∧ a.terminal.Writes [] t' := by
  refine ⟨_, ?_, a.terminal.writes_draw (a.picture a.terminal.size)⟩
  simp only [redrawn, redraw, Terminal.perform_eq h, Terminal.perform_did h]
  rfl

/-- What mounting a story makes of a player, over this terminal. -/
def mounted (a : App σ) (t : Terminal) : App σ :=
  { a with
    dispatcher := ⟨⟨t, t.reportsReleases⟩, some ⟨(), t.trigger⟩⟩
    room := roomFor a.resource
    reader := .subscribe .fresh
    awaiting := true
    state := .loading }

omit [Session σ] in
theorem mount_eq (h : t.IsReliable) (a : App σ) :
    ∃ t', a.mount t = (.ok .goOn, a.mounted t') ∧
      t.Writes (TerminalInput.attaching t.reportsReleases) t' := by
  obtain ⟨t₁, hattach, hwrites⟩ := TerminalInput.attach_eq h false
  have hbind : (Dispatcher.unbound ⟨t, false⟩ : Dispatcher TerminalInput Unit).bind () =
      (.ok (), ⟨⟨t₁, t₁.reportsReleases⟩, some ⟨(), t₁.trigger⟩⟩) := by
    rw [hwrites.trigger, hwrites.reportsReleases]
    simp only [Dispatcher.bind, Dispatcher.unbound, hattach]
  obtain ⟨t₂, hredrawn, hdraws⟩ := redrawn_eq (a := a.mounted t₁) (hwrites.isReliable h)
  refine ⟨t₂, ?_, ?_⟩
  · rw [mount]
    simp only [hbind]
    rw [mounted, hdraws.trigger, hdraws.reportsReleases]
    exact hredrawn
  · have hall := hwrites.trans hdraws
    rw [List.append_nil] at hall
    exact hall

omit [Session σ] in
/-- A player that is given up detaches its listeners. -/
theorem writes_release (h : a.terminal.IsReliable) {r : Route Unit}
    (hr : a.dispatcher.route = some r) :
    a.terminal.Writes (TerminalInput.detaching a.dispatcher.surface.enhanced)
      a.dispatcher.release.terminal := by
  obtain ⟨t', hdetach, hwrites⟩ := TerminalInput.detach_eq h a.dispatcher.surface.enhanced
  have hrelease : a.dispatcher.release = ⟨t', false⟩ := by
    simp only [Dispatcher.release, Dispatcher.unbind, hr]
    exact congrArg Prod.snd hdetach
  rw [hrelease]
  exact hwrites

end App

end StoryPlayer
