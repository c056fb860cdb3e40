import StoryPlayer.Engine.Rehearsal
import StoryPlayer.Proofs.App.Beats
import StoryPlayer.Proofs.App.Operations

/-!
# No redraw is lost

At every loop head the player shows what there is to show, unless it has yet to look at something.  What
it has noticed of its room is kept apart from what it has drawn.

* `App.Noticed`: the noticed state is loading as long as the result of loading has not been taken, and
  is told by the result afterwards.
* `App.Drawn`: without unseen views the last picture is the one that would be drawn now.
* `App.InStep.beat`: both are kept by every beat.
* `App.upToDate`: every loop head.
-/

namespace StoryPlayer

open Device (Event)

namespace App

variable {σ : Type} {a a' : App σ} {size : Screen.Size} {flow : Flow}

/-! ## What the player has noticed -/

/-- The state is what the player has noticed of its room. -/
structure Noticed (a : App σ) : Prop where
  errand : a.room.Errand
  loading_iff : a.state = .loading ↔ a.awaiting = true
  /-- Once the result of loading has been taken, it tells the state. -/
  taken : a.awaiting = false →
    (∃ result, a.room.answerOf? loader = some (.loaded result) ∧ a.state = stateOf result) ∨
      a.room.isBrokenOff = true ∧ ∃ message, a.state = .failed message

/-- Then nobody loads any more. -/
theorem Noticed.not_isBusy (h : a.Noticed) (ha : a.awaiting = false) : a.room.isBusy = false := by
  rcases h.taken ha with ⟨result, hanswer, -⟩ | ⟨hbroken, -⟩
  · exact (h.errand.of_answerOf? hanswer).1
  · rw [Room.isBrokenOff, Bool.and_eq_true, Bool.not_eq_true'] at hbroken
    exact hbroken.1

/-- A player that says that the story is loaded has a session. -/
theorem Noticed.isLoaded (h : a.Noticed) (ha : a.state = .loaded) :
    a.room.controller.isLoaded = true := by
  have hawaiting : a.awaiting = false := by
    rw [← Bool.not_eq_true, ← h.loading_iff, ha]
    nofun
  rcases h.taken hawaiting with ⟨result, hanswer, hstate⟩ | ⟨-, message, hstate⟩
  · cases result with
    | ok outcome => exact (h.errand.of_answerOf? hanswer).2 outcome rfl
    | error e => cases ha.symm.trans hstate
  · cases ha.symm.trans hstate

/-- The room goes on, but not beyond a result that has been taken. -/
theorem Noticed.withRoom (h : a.Noticed) {r : Room σ} (hr : r.Errand)
    (htaken : a.awaiting = false →
      r.answers = a.room.answers ∧ (a.room.isBusy = false → r.isBusy = false)) :
    ({ a with room := r } : App σ).Noticed where
  errand := hr
  loading_iff := h.loading_iff
  taken ha := by
    obtain ⟨hanswers, hbusy⟩ := htaken ha
    have hanswer : r.answerOf? loader = a.room.answerOf? loader := by
      rw [Room.answerOf?, hanswers]
      rfl
    refine (h.taken ha).imp ?_ ?_
    · rintro ⟨result, hresult, hstate⟩
      exact ⟨result, hanswer.trans hresult, hstate⟩
    · rintro ⟨hbroken, hstate⟩
      refine ⟨?_, hstate⟩
      show r.isBrokenOff = true
      rw [Room.isBrokenOff, hanswer, hbusy (h.not_isBusy ha)]
      rw [Room.isBrokenOff, h.not_isBusy ha] at hbroken
      exact hbroken

/-! ## What the player has drawn -/

/-- Without unseen views the last picture is the one that would be drawn now. -/
structure Drawn (a : App σ) (size : Screen.Size) : Prop where
  seen_le : a.reader.seen ≤ a.room.controller.board.count
  shown : a.reader.seen = a.room.controller.board.count →
    a.terminal.pictures.getLast? = some (a.picture size)

/-- What the room publishes is unseen. Anything else that changes does not show, unless the status names
the story that is loaded. -/
theorem Drawn.withRoom (h : a.Drawn size) {r : Room σ}
    (hboard : a.room.controller.board.Precedes r.controller.board)
    (hresource : a.state = .loaded → r.controller.resource? = a.room.controller.resource?) :
    ({ a with room := r } : App σ).Drawn size where
  seen_le := h.seen_le.trans hboard.count_le
  shown hseen := by
    have hle : r.controller.board.count ≤ a.room.controller.board.count := hseen ▸ h.seen_le
    have hcount : r.controller.board.count = a.room.controller.board.count :=
      le_antisymm hle hboard.count_le
    have hpicture : ({ a with room := r } : App σ).picture size = a.picture size := by
      have hstatus : ({ a with room := r } : App σ).status = a.status := by
        cases hs : a.state with
        | loading => simp only [status, hs]
        | loaded => simp only [status, hs, hresource hs, hcount]
        | failed reason => simp only [status, hs]
      rw [picture, picture, hstatus]
      exact congrArg (Picture.mk · a.bindings a.status size) (hboard.current_of_count_le hle)
    rw [hpicture]
    exact h.shown (hseen.trans hcount)

/-! ## Both together -/

structure InStep (a : App σ) (size : Screen.Size) : Prop where
  noticed : a.Noticed
  drawn : a.Drawn size

theorem InStep.withRoom (h : a.InStep size) {r : Room σ} (hr : r.Errand)
    (htaken : a.awaiting = false →
      r.answers = a.room.answers ∧ (a.room.isBusy = false → r.isBusy = false))
    (hboard : a.room.controller.board.Precedes r.controller.board)
    (hresource : a.state = .loaded → r.controller.resource? = a.room.controller.resource?) :
    ({ a with room := r } : App σ).InStep size :=
  ⟨h.noticed.withRoom hr htaken, h.drawn.withRoom hboard hresource⟩

/-- What draws nothing may be done to the terminal. -/
theorem InStep.withTerminal (h : a.InStep size) {t : Terminal}
    (ht : t.pictures = a.terminal.pictures) : (a.withTerminal t).InStep size where
  noticed := ⟨h.noticed.errand, h.noticed.loading_iff, h.noticed.taken⟩
  drawn := by
    refine ⟨h.drawn.seen_le, fun hseen => ?_⟩
    show t.pictures.getLast? = some (a.picture size)
    rw [ht]
    exact h.drawn.shown hseen

/-- The rooms of earlier mounts do not matter. -/
theorem InStep.withEarlier (h : a.InStep size) (earlier : List (Room σ)) :
    ({ a with earlier } : App σ).InStep size :=
  ⟨⟨h.noticed.errand, h.noticed.loading_iff, h.noticed.taken⟩, h.drawn.seen_le, h.drawn.shown⟩

/-- **Drawing brings the picture in step** with everything that has been noticed. -/
theorem inStep_redrawn (hn : a.Noticed) (hs : a.reader.seen ≤ a.room.controller.board.count)
    (h : a.redrawn = (.ok flow, a')) :
    a'.InStep a'.terminal.size ∧ ∃ p, a'.terminal.pictures = a.terminal.pictures ++ [p] := by
  obtain ⟨-, rfl⟩ := redrawn_ok h
  have hpictures := a.terminal.pictures_tried
    [(.readSize, true), (.draw (a.picture a.terminal.size), true)]
  refine ⟨⟨⟨hn.errand, hn.loading_iff, hn.taken⟩, hs, fun _ => ?_⟩, _, hpictures⟩
  show (a.terminal.tried _).pictures.getLast? = _
  rw [hpictures]
  exact List.getLast?_concat

/-- A new mount is drawn as it begins. -/
theorem inStep_mount {t : Terminal} (h : a.mount t = (.ok flow, a')) :
    a'.InStep a'.terminal.size ∧ ∃ p, a'.terminal.pictures = t.pictures ++ [p] := by
  rcases mount_cases a t with ⟨e, i, -, hmount⟩ | ⟨trigger, i, hattaches, hmount⟩
  · cases h.symm.trans hmount
  · have hnoticed : (a.boundTo i trigger).Noticed :=
      ⟨Room.errand_roomFor a.resource, by simp [boundTo], nofun⟩
    obtain ⟨hstep, p, hp⟩ := inStep_redrawn hnoticed (le_refl _) (hmount.symm.trans h)
    exact ⟨hstep, p, hp.trans (congrArg (· ++ [p]) hattaches.pictures.1)⟩

/-- What draws nothing leaves the size of the last picture, -/
theorem InStep.kept (h : a'.InStep size) (hp : a'.terminal.pictures = a.terminal.pictures) :
    a'.InStep (a.lastSize a' size) := by
  rw [lastSize_of_eq hp]
  exact h

/-- and what draws something takes the size of the terminal. -/
theorem InStep.drew (h : a'.InStep a'.terminal.size ∧
      ∃ p, a'.terminal.pictures = a.terminal.pictures ++ [p]) (size : Screen.Size) :
    a'.InStep (a.lastSize a' size) := by
  obtain ⟨hstep, p, hp⟩ := h
  rw [lastSize_of_append hp]
  exact hstep

theorem InStep.withController (h : a.InStep size) {c : Controller σ}
    (hboard : a.room.controller.board.Precedes c.board)
    (hresource : c.resource? = a.room.controller.resource?) :
    ({ a with room := { a.room with controller := c } } : App σ).InStep size := by
  refine h.withRoom (h.noticed.errand.withController ?_) (fun _ => ⟨rfl, id⟩) hboard
    fun _ => hresource
  rw [Controller.isLoaded_eq, Controller.isLoaded_eq, hresource]
  exact id

theorem InStep.breakOff (h : a.InStep size) :
    ({ a with room := a.room.breakOff } : App σ).InStep size :=
  h.withRoom h.noticed.errand.breakOff (fun _ => ⟨rfl, fun _ => rfl⟩) (.refl _) fun _ => rfl

theorem pictures_release (a : App σ) :
    a.dispatcher.release.terminal.pictures = a.terminal.pictures := by
  cases hr : a.dispatcher.route with
  | none =>
    rw [Dispatcher.release, Dispatcher.unbind, hr]
    rfl
  | some r => exact (detaches_release hr).pictures.1

theorem inStep_remount (h : a.remount = (.ok .goOn, a')) :
    a'.InStep a'.terminal.size ∧ ∃ p, a'.terminal.pictures = a.terminal.pictures ++ [p] := by
  obtain ⟨hstep, p, hp⟩ := inStep_mount h
  rw [pictures_release] at hp
  exact ⟨hstep, p, hp⟩

/-! ## One beat -/

variable [Session σ]

theorem InStep.work (h : a.InStep size) (engine : Engine σ) :
    ({ a with room := a.room.step engine } : App σ).InStep size := by
  -- A result that has been taken is the end of the errand.
  have hidle (ha : a.awaiting = false) : a.room.step engine = a.room :=
    Room.step_of_not_isBusy (h.noticed.not_isBusy ha) engine
  have hsteps := Room.steps_step engine a.room
  refine h.withRoom (h.noticed.errand.steps hsteps) ?_ (Room.precedes_steps hsteps) ?_
  · intro ha
    rw [hidle ha]
    exact ⟨rfl, id⟩
  · intro hs
    have ha : a.awaiting = false := by
      rw [← Bool.not_eq_true, ← h.noticed.loading_iff, hs]
      nofun
    rw [hidle ha]

theorem InStep.dispatch (h : a.InStep size) (e : Event) : (a.dispatch e).InStep size := by
  rw [App.dispatch]
  split
  · rename_i c hc
    exact h.withController (Controller.precedes_handle a.room.controller c)
      (Controller.handle_frame a.room.controller c).2.1
  · exact h

theorem pictures_dispatch (a : App σ) (e : Event) :
    (a.dispatch e).terminal.pictures = a.terminal.pictures := by
  rw [App.dispatch]
  split
  · rfl
  · rfl

/-- An event is taken. -/
theorem InStep.takeEvent (h : a.InStep size) {e : Event} (he : a.takeEvent e = (.ok .goOn, a')) :
    a'.InStep (a.lastSize a' size) := by
  rw [takeEvent_eq] at he
  cases hp : a.bindings.purposeOf e with
  | quit =>
    rw [hp] at he
    cases he
  | reload =>
    rw [hp] at he
    exact .drew (inStep_remount he) size
  | nothing =>
    rw [hp] at he
    cases he
    exact h.kept rfl
  | resize =>
    rw [hp] at he
    exact .drew (inStep_redrawn h.noticed h.drawn.seen_le he) size
  | story =>
    rw [hp] at he
    cases he
    exact (h.dispatch e).kept (pictures_dispatch a e)

/-- The player looks for a view that it has not drawn. -/
theorem InStep.notice (h : a.InStep size) (hx : a.step .notice = (.ok .goOn, a')) :
    a'.InStep (a.lastSize a' size) := by
  rw [step] at hx
  split at hx
  · refine .drew (inStep_redrawn ?_ (le_refl _) hx) size
    exact ⟨h.noticed.errand, h.noticed.loading_iff, h.noticed.taken⟩
  · cases hx
    exact h.kept rfl

/-- It looks for the result of loading. -/
theorem InStep.join (h : a.InStep size) (hx : a.step .join = (.ok .goOn, a')) :
    a'.InStep (a.lastSize a' size) := by
  rw [step] at hx
  cases hresult : a.result? with
  | none =>
    simp only [hresult] at hx
    cases hx
    exact h.kept rfl
  | some result =>
    simp only [hresult] at hx
    refine .drew (inStep_redrawn (a := { a with awaiting := false, state := stateOf result }) ?_
      h.drawn.seen_le hx) size
    have hanswer : a.room.answerOf? loader = some (.loaded result) := by
      rw [result?] at hresult
      split at hresult
      · split at hresult
        · rename_i hanswer
          cases hresult
          exact hanswer
        · cases hresult
      · cases hresult
    refine ⟨h.noticed.errand, ?_, fun _ => .inl ⟨result, hanswer, rfl⟩⟩
    cases result with
    | ok outcome => simp [stateOf]
    | error e => simp [stateOf]

/-- It looks for a loading task that has died. -/
theorem InStep.joinBroken (h : a.InStep size) {message : String}
    (hx : a.beat (.joinBroken message) = (.ok .goOn, a')) : a'.InStep (a.lastSize a' size) := by
  rw [beat] at hx
  split at hx
  · rename_i hbroken
    rw [Bool.and_eq_true] at hbroken
    refine .drew (inStep_redrawn (a := { a with awaiting := false, state := .failed message }) ?_
      h.drawn.seen_le hx) size
    exact ⟨h.noticed.errand, by simp, fun _ => .inr ⟨hbroken.2, message, rfl⟩⟩
  · cases hx
    exact h.kept rfl

/-- **One beat.** -/
theorem InStep.beat (h : a.InStep size) {x : Beat σ} (hx : a.beat x = (.ok .goOn, a')) :
    a'.InStep (a.lastSize a' size) := by
  cases x with
  | happening y =>
    cases y with
    | event e =>
      rw [App.beat, step] at hx
      rcases a.terminal.perform_cases .readEvent with hread | ⟨err, hread⟩
      · simp only [hread] at hx
        have hpictures : (a.terminal.tried [(.readEvent, true)]).pictures = a.terminal.pictures :=
          a.terminal.pictures_tried_of_forall (by simp [Terminal.picture?])
        have hstep := (h.withTerminal hpictures).takeEvent hx
        rw [lastSize] at hstep ⊢
        rw [← hpictures]
        exact hstep
      · simp only [hread] at hx
        cases hx
    | sized new =>
      cases hx
      exact (h.withTerminal (t := { a.terminal with size := new }) rfl).kept rfl
    | work engine =>
      cases hx
      exact (h.work engine).kept rfl
    | strayWork mount engine =>
      cases hx
      exact (h.withEarlier _).kept rfl
    | notice => exact h.notice hx
    | join => exact h.join hx
  | push gate v =>
    cases hx
    exact (h.withController (Controller.precedes_push _ gate v)
      (Controller.resource?_push _ gate v)).kept rfl
  | strayPush mount gate v =>
    cases hx
    exact (h.withEarlier _).kept rfl
  | breakOff =>
    cases hx
    exact h.breakOff.kept rfl
  | strayBreakOff mount =>
    cases hx
    exact (h.withEarlier _).kept rfl
  | joinBroken message => exact h.joinBroken hx

/-- Every loop head is in step. -/
theorem inStep_of_atHead {resource : String} {b : KeyBindings} {beats : List (Beat σ)}
    (h : AtHead resource b beats a size) : a.InStep size := by
  induction h with
  | mounted h => exact (inStep_mount h).1
  | passed h hx ih => exact ih.beat hx

/-! ## Every loop head -/

/-- What the status has to say of a load state, if the story has been published this often and the key
for another try is bound like this. -/
def LoadState.text (resource : String) (count : Nat) (reload : String) : LoadState → String
  | .loading => "loading " ++ resource ++ "…"
  | .loaded => resource ++ " | " ++ toString count ++ " updates"
  | .failed reason => "not loaded: " ++ reason ++ " | " ++ reload ++ " to retry"

/-- What the player shows at the head of its loop. -/
structure UpToDate (resource : String) (b : KeyBindings) (beats : List (Beat σ)) (a : App σ)
    (size : Screen.Size) : Prop where
  /-- The state is loading as long as the result of loading the mounted story has not been taken. -/
  loading_iff : a.state = .loading ↔ a.awaiting = true
  /-- Once it has been taken, it tells the state. -/
  taken : a.awaiting = false →
    (∃ result, a.room.answerOf? loader = some (.loaded result) ∧ a.state = stateOf result) ∨
      a.room.isBrokenOff = true ∧ ∃ message, a.state = .failed message
  /-- A story that is loaded has a session. -/
  isLoaded : a.state = .loaded → a.room.controller.isLoaded = true
  /-- Without unseen views the last picture shows the current view and the status, even if a result of
  loading waits to be taken. -/
  shown : a.reader.hasNews a.room.controller.board = false →
    a.terminal.pictures.getLast? = some
      ⟨a.room.controller.board.current, b,
        LoadState.text resource a.room.controller.board.count b.reload a.state, size⟩
  /-- A task of an earlier mount changes none of this, -/
  stray : ∀ x : Beat σ, x.isStray = true → ∃ earlier, a.beat x = (.ok .goOn, { a with earlier })
  /-- and if none had ever done anything, the player would be the same, its earlier rooms apart. -/
  alone : ∃ earlier, AtHead resource b (beats.filter fun x => !x.isStray) { a with earlier } size

omit [Session σ] in
/-- A picture shows the view of the mounted room and what has become of the story. -/
theorem Faithful.picture_eq {resource : String} {b : KeyBindings} (h : a.Faithful resource b)
    (hl : a.state = .loaded → a.room.controller.isLoaded = true) (size : Screen.Size) :
    a.picture size = ⟨a.room.controller.board.current, b,
      LoadState.text resource a.room.controller.board.count b.reload a.state, size⟩ := by
  have hstatus :
      a.status = LoadState.text resource a.room.controller.board.count b.reload a.state := by
    rw [App.status]
    cases hs : a.state with
    | loading =>
      simp only [h.story]
      rfl
    | failed reason =>
      simp only [h.bindings]
      rfl
    | loaded =>
      obtain ⟨name, hname⟩ := Option.isSome_iff_exists.mp (Controller.isLoaded_eq _ ▸ hl hs)
      have hresource : a.room.controller.resource?.getD a.resource = resource := by
        rw [hname]
        exact h.asks.loaded name hname
      simp only [hresource]
      rfl
  rw [picture, hstatus, h.bindings]

/-- **No redraw is lost,** whatever comes first, on any terminal. -/
theorem upToDate {resource : String} {b : KeyBindings} {beats : List (Beat σ)}
    (h : AtHead resource b beats a size) : UpToDate resource b beats a size := by
  have hstep := inStep_of_atHead h
  exact {
    loading_iff := hstep.noticed.loading_iff
    taken := hstep.noticed.taken
    isLoaded := hstep.noticed.isLoaded
    shown := fun hnews => by
      rw [hstep.drawn.shown (of_not_not (of_decide_eq_false hnews)),
        h.faithful.picture_eq hstep.noticed.isLoaded]
    stray := fun x hx => a.beat_of_isStray hx
    alone := h.alone }

/-- The player as it opens on a terminal that never fails. -/
def opened : App RehearsedSession :=
  (mount (blank "a.ks" .default (.reliable ⟨80, 24⟩ false)) (.reliable ⟨80, 24⟩ false)).2

/-- The story is mounted anew, the loading that is left behind goes on, and then the new one is
done. -/
def afterReload : List (Beat RehearsedSession) :=
  [.happening (.event (.key ⟨.function 5, .none, .press⟩)), .happening (.strayWork 0 found),
    .happening (.work found), .happening (.work found), .happening .notice, .happening .join]

/-- In the end the story is loaded and everything is drawn. -/
theorem upToDate_afterReload :
    ∃ a size, AtHead "a.ks" .default afterReload a size ∧
      UpToDate "a.ks" .default afterReload a size ∧ a.state = .loaded ∧
      a.reader.hasNews a.room.controller.board = false := by
  have h₀ : AtHead "a.ks" .default [] opened opened.terminal.size :=
    .mounted (t := .reliable ⟨80, 24⟩ false) rfl
  have h₁ := h₀.next (x := afterReload[0]) rfl
  have h₂ := h₁.next (x := afterReload[1]) rfl
  have h₃ := h₂.next (x := afterReload[2]) rfl
  have h₄ := h₃.next (x := afterReload[3]) rfl
  have h₅ := h₄.next (x := afterReload[4]) rfl
  have h₆ : AtHead "a.ks" .default afterReload _ _ := h₅.next (x := afterReload[5]) rfl
  exact ⟨_, _, h₆, upToDate h₆, rfl, rfl⟩

end App

end StoryPlayer
