import StoryPlayer.Proofs.Controller.Reading

/-!
# Servicing a session step by step

Whoever holds a session deals with it piece by piece: a command is evaluated, the views that the
session pushes come through its gate one after another, and then what is visible is read call by call
and published. Between two of these steps anything else may happen. What is due to the session from
here on depends on the one who holds it alone.

* `Session.blocks`: the dealings with a session, command by command.
* `Controller.serve`: one step, and `Controller.dealings_serve`: it does what is due next.
* `Controller.Serves.handle`: the steps in a row are `Controller.handle`.
-/

namespace StoryPlayer

/-! ## Dealings -/

/-- What is noted of a session and of what becomes visible. -/
inductive Note where
  /-- The session receives a call. -/
  | call (c : SessionCall)
  /-- What has been read of the session is published. -/
  | rebuilt (v : View)
  /-- A view that has been pushed is published. -/
  | pushed (v : View)
  deriving DecidableEq, Repr

namespace Note

def call? : Note → Option SessionCall
  | .call c => some c
  | _ => none

/-- The view that is published. -/
def view? : Note → Option View
  | .call _ => none
  | .rebuilt v | .pushed v => some v

/-- Whether the one who holds the session has done this. -/
def isDealing : Note → Bool
  | .call _ | .rebuilt _ => true
  | .pushed _ => false

@[simp] theorem filter_map_pushed (views : List View) :
    (views.map pushed).filter isDealing = [] := by
  rw [List.filter_map]
  exact List.map_eq_nil_iff.mpr (List.filter_eq_nil_iff.mpr fun _ _ => nofun)

@[simp] theorem filterMap_call?_map_pushed (views : List View) :
    (views.map pushed).filterMap call? = [] := by
  rw [List.filterMap_map]
  exact List.filterMap_eq_nil_iff.mpr fun _ _ => rfl

@[simp] theorem filterMap_view?_map_pushed (views : List View) :
    (views.map pushed).filterMap view? = views := by
  rw [List.filterMap_map]
  exact List.filterMap_some

end Note

/-- Everything that is visible is read, and published as a whole. -/
def Accessors.rebuilding (a : Accessors) : List Note :=
  .call .lineCount :: (List.range a.lineCount).map (.call <| .line ·) ++
    [.call (.image 0), .rebuilt a.view]

namespace Session

variable {σ : Type} [Session σ]

/-- A session that cannot be read is not dealt with. -/
def rebuilding (session : σ) : List Note :=
  match Session.accessors? session with
  | none => []
  | some a => a.rebuilding

/-- A command is evaluated, and what is visible then is read. -/
def servicing (session : σ) (c : Command) : List Note :=
  .call (.evaluate c) :: rebuilding (Session.evaluate session c).1

/-- A session after some commands. -/
def after (session : σ) (commands : List Command) : σ :=
  commands.foldl (fun s c => (Session.evaluate s c).1) session

/-- The dealings upon each of some commands. -/
def servicings (session : σ) : List Command → List (List Note)
  | [] => []
  | c :: rest => servicing session c :: servicings (Session.evaluate session c).1 rest

/-- The dealings with a session from its start on, and upon each of some commands. -/
def blocks (session : σ) (commands : List Command) : List (List Note) :=
  rebuilding session :: servicings session commands

theorem servicings_concat (session : σ) (commands : List Command) (c : Command) :
    servicings session (commands ++ [c]) =
      servicings session commands ++ [servicing (after session commands) c] := by
  induction commands generalizing session with
  | nil => rfl
  | cons first rest ih =>
    have hrest := ih (Session.evaluate session first).1
    rw [List.cons_append, servicings, hrest]
    rfl

theorem blocks_concat (session : σ) (commands : List Command) (c : Command) :
    blocks session (commands ++ [c]) =
      blocks session commands ++ [servicing (after session commands) c] := by
  rw [blocks, servicings_concat]
  rfl

theorem after_concat (session : σ) (commands : List Command) (c : Command) :
    after session (commands ++ [c]) = (Session.evaluate (after session commands) c).1 := by
  rw [after, List.foldl_append]
  rfl

end Session

/-! ## One step -/

/-- How far the one who holds a session has got. -/
inductive Progress where
  /-- A command is to be evaluated. -/
  | evaluating (c : Command)
  /-- The session is about to push these views, and will be asked then whether it can be read. -/
  | pushing (views : List View)
  /-- The lines are to be counted. -/
  | counting (a : Accessors)
  /-- These lines have been read, and these others and the first image have yet to be. -/
  | reading (a : Accessors) (text : List String) (rest : List Nat)
  /-- This is to be published. -/
  | showing (v : View)
  | finished

def Progress.isFinished : Progress → Bool
  | .finished => true
  | _ => false

theorem Progress.eq_finished {p : Progress} (h : p.isFinished = true) : p = .finished := by
  cases p with
  | finished => rfl
  | _ => cases h

/-- A session that is held, the gate that it pushes through, and what is done with it. -/
structure Hold (σ : Type) where
  session : σ
  gate : GateId
  progress : Progress

/-- What a step leads to, and what is to be noted of it. -/
structure Served (σ : Type) where
  controller : Controller σ
  hold : Hold σ
  notes : List Note

/-- The views that are published when one is offered to a gate. -/
def Board.letThrough (b : Board) (gate : GateId) (v : View) : List View :=
  if b.gates[gate]? = some .armed then [v] else []

namespace Controller

variable {σ : Type} [Session σ]

/-- The next step of the one who holds the session. -/
def serve (c : Controller σ) (h : Hold σ) : Served σ :=
  match h.progress with
  | .evaluating command =>
    let (session, views) := Session.evaluate h.session command
    ⟨{ c with
        received := .evaluate command :: c.received
        active := c.active.map fun a => { a with session } },
      { h with session, progress := .pushing views }, [.call (.evaluate command)]⟩
  | .pushing (v :: views) =>
    ⟨c.push h.gate v, { h with progress := .pushing views },
      (c.board.letThrough h.gate v).map .pushed⟩
  | .pushing [] =>
    match Session.accessors? h.session with
    | none => ⟨c, { h with progress := .finished }, []⟩
    | some a => ⟨c, { h with progress := .counting a }, []⟩
  | .counting a =>
    let (count, received) := a.readLineCount.run c.received
    ⟨{ c with received }, { h with progress := .reading a [] (List.range count) },
      [.call .lineCount]⟩
  | .reading a text (i :: rest) =>
    let (line, received) := (a.readLine i).run c.received
    ⟨{ c with received }, { h with progress := .reading a (text ++ [line]) rest },
      [.call (.line i)]⟩
  | .reading a text [] =>
    let (background, received) := (a.readImage 0).run c.received
    ⟨{ c with received }, { h with progress := .showing ⟨text, background.toList⟩ },
      [.call (.image 0)]⟩
  | .showing v => ⟨{ c with board := c.board.publish v }, { h with progress := .finished }, [.rebuilt v]⟩
  | .finished => ⟨c, h, []⟩

end Controller

namespace Hold

variable {σ : Type} [Session σ]

/-- What the one who holds the session has yet to do with it. -/
def due (h : Hold σ) : List Note :=
  match h.progress with
  | .evaluating c => Session.servicing h.session c
  | .pushing _ => Session.rebuilding h.session
  | .counting a => a.rebuilding
  | .reading a text rest =>
    rest.map (.call <| .line ·) ++
      [.call (.image 0), .rebuilt ⟨text ++ rest.map a.line, (a.image 0).toList⟩]
  | .showing v => [.rebuilt v]
  | .finished => []

/-- The session as it will be left. -/
def left (h : Hold σ) : σ :=
  match h.progress with
  | .evaluating c => (Session.evaluate h.session c).1
  | _ => h.session

end Hold

namespace Controller

variable {σ : Type} [Session σ] {c c' c'' : Controller σ} {hold h h' h'' : Hold σ}

/-- **What is noted is what was due first**, but for the views that are pushed. -/
theorem dealings_serve (c : Controller σ) (h : Hold σ) :
    (c.serve h).notes.filter Note.isDealing ++ (c.serve h).hold.due = h.due := by
  obtain ⟨session, gate, progress⟩ := h
  cases progress with
  | evaluating command => rfl
  | pushing views =>
    cases views with
    | cons v views =>
      show ((c.board.letThrough gate v).map Note.pushed).filter Note.isDealing ++
        Session.rebuilding session = Session.rebuilding session
      rw [Note.filter_map_pushed, List.nil_append]
    | nil =>
      simp only [serve, Hold.due, Session.rebuilding]
      cases Session.accessors? session with
      | none => rfl
      | some a => rfl
  | counting a => rfl
  | reading a text rest =>
    cases rest with
    | nil =>
      simp only [Hold.due, List.map_nil, List.append_nil]
      rfl
    | cons i rest =>
      have htext : text ++ [a.line i] ++ rest.map a.line = text ++ (i :: rest).map a.line :=
        List.append_assoc text [a.line i] _
      show .call (.line i) :: (rest.map (Note.call <| .line ·) ++
        [.call (.image 0), .rebuilt ⟨text ++ [a.line i] ++ rest.map a.line, _⟩]) = _
      rw [htext]
      rfl
  | showing v => rfl
  | finished => rfl

theorem left_serve (c : Controller σ) (h : Hold σ) : (c.serve h).hold.left = h.left := by
  obtain ⟨session, gate, progress⟩ := h
  cases progress with
  | pushing views =>
    cases views with
    | cons v views => rfl
    | nil =>
      simp only [serve]
      cases Session.accessors? session with
      | none => rfl
      | some a => rfl
  | reading a text rest =>
    cases rest with
    | nil => rfl
    | cons i rest => rfl
  | _ => rfl

theorem received_serve (c : Controller σ) (h : Hold σ) :
    (c.serve h).controller.received =
      ((c.serve h).notes.filterMap Note.call?).reverse ++ c.received := by
  obtain ⟨session, gate, progress⟩ := h
  cases progress with
  | pushing views =>
    cases views with
    | cons v views =>
      show c.received = (((c.board.letThrough gate v).map _).filterMap _).reverse ++ c.received
      rw [Note.filterMap_call?_map_pushed]
      rfl
    | nil =>
      simp only [serve]
      cases Session.accessors? session with
      | none => rfl
      | some a => rfl
  | reading a text rest =>
    cases rest with
    | nil => rfl
    | cons i rest => rfl
  | _ => rfl

theorem publishes_serve (c : Controller σ) (h : Hold σ) :
    c.board.Publishes ((c.serve h).notes.filterMap Note.view?) (c.serve h).controller.board := by
  obtain ⟨session, gate, progress⟩ := h
  cases progress with
  | pushing views =>
    cases views with
    | cons v views =>
      show c.board.Publishes (((c.board.letThrough gate v).map _).filterMap _)
        (c.board.offer gate v)
      rw [Note.filterMap_view?_map_pushed]
      exact Board.publishes_offer c.board gate v
    | nil =>
      simp only [serve]
      cases Session.accessors? session with
      | none => exact .refl c.board
      | some a => exact .refl c.board
  | reading a text rest =>
    cases rest with
    | nil => exact .refl c.board
    | cons i rest => exact .refl c.board
  | showing v => exact Board.publishes_publish c.board v
  | _ => exact .refl c.board

/-- The controller keeps the session as the one who holds it leaves it. -/
theorem active_serve (h : ∀ a ∈ c.active, a.session = hold.session) :
    (c.serve hold).controller.active =
      c.active.map fun a => { a with session := (c.serve hold).hold.session } := by
  have hkeep : c.active = c.active.map fun a => { a with session := hold.session } := by
    cases hc : c.active with
    | none => rfl
    | some a => rw [Option.map_some, ← h a hc]
  obtain ⟨session, gate, progress⟩ := hold
  cases progress with
  | evaluating command => rfl
  | pushing views =>
    cases views with
    | cons v views => exact hkeep
    | nil =>
      simp only [serve]
      cases Session.accessors? session with
      | none => exact hkeep
      | some a => exact hkeep
  | reading a text rest =>
    cases rest with
    | nil => exact hkeep
    | cons i rest => exact hkeep
  | _ => exact hkeep

theorem active_serve_of_none (h : c.active = none) :
    (c.serve hold).controller.active = none := by
  have hkept : ∀ a ∈ c.active, a.session = hold.session := by
    intro a ha
    cases h.symm.trans ha
  rw [active_serve hkept, h]
  rfl

theorem active_serve_of_some {a : Active σ} (h : c.active = some a)
    (hs : a.session = hold.session) : (c.serve hold).controller.active =
      some { a with session := (c.serve hold).hold.session } := by
  have hkept : ∀ b ∈ c.active, b.session = hold.session := by
    rintro b hb
    cases h.symm.trans hb
    exact hs
  rw [active_serve hkept, h]
  rfl

/-! ## Steps in a row -/

/-- What the one who holds the session comes to if nothing happens in between. -/
inductive Serves : Controller σ → Hold σ → Controller σ → Hold σ → Prop
  | refl (c : Controller σ) (h : Hold σ) : Serves c h c h
  | head {c c' : Controller σ} {h h' : Hold σ} (unfinished : h.progress.isFinished = false)
      (rest : Serves (c.serve h).controller (c.serve h).hold c' h') : Serves c h c' h'

theorem Serves.trans (hs : Serves c h c' h') (hs' : Serves c' h' c'' h'') : Serves c h c'' h'' := by
  induction hs with
  | refl c h => exact hs'
  | head unfinished rest ih => exact .head unfinished (ih hs')

theorem Serves.single (hp : h.progress.isFinished = false) :
    Serves c h (c.serve h).controller (c.serve h).hold := .head hp (.refl _ _)

variable (c) (session : σ) (gate : GateId)

theorem Serves.pushing (views : List View) :
    Serves c ⟨session, gate, .pushing views⟩ (views.foldl (fun c v => c.push gate v) c)
      ⟨session, gate, .pushing []⟩ := by
  induction views generalizing c with
  | nil => exact .refl _ _
  | cons v views ih => exact .head rfl (ih (c.push gate v))

theorem Serves.reading (a : Accessors) (text : List String) (rest : List Nat) :
    Serves c ⟨session, gate, .reading a text rest⟩
      { c with received := (rest.map SessionCall.line).reverse ++ c.received }
      ⟨session, gate, .reading a (text ++ rest.map a.line) []⟩ := by
  induction rest generalizing c text with
  | nil =>
    have htext : text ++ ([] : List Nat).map a.line = text := List.append_nil text
    rw [htext]
    exact .refl _ _
  | cons i rest ih =>
    have hrest := ih { c with received := .line i :: c.received } (text ++ [a.line i])
    rw [List.append_assoc] at hrest
    rw [List.map_cons, List.reverse_cons, List.append_assoc]
    exact .head rfl hrest

/-- **Reading in a row** is `Controller.rebuild`. -/
theorem Serves.rebuild :
    Serves c ⟨session, gate, .pushing []⟩ (c.rebuild session) ⟨session, gate, .finished⟩ := by
  cases ha : Session.accessors? session with
  | none =>
    have hserve : c.serve ⟨session, gate, .pushing []⟩ = ⟨c, ⟨session, gate, .finished⟩, []⟩ := by
      simp only [serve, ha]
    have hstep := Serves.single (c := c) (h := ⟨session, gate, .pushing []⟩) rfl
    rw [hserve] at hstep
    rw [Controller.rebuild, ha]
    exact hstep
  | some a =>
    have hserve : c.serve ⟨session, gate, .pushing []⟩ = ⟨c, ⟨session, gate, .counting a⟩, []⟩ := by
      simp only [serve, ha]
    have hfirst := Serves.single (c := c) (h := ⟨session, gate, .pushing []⟩) rfl
    rw [hserve] at hfirst
    have hlines := Serves.reading { c with received := .lineCount :: c.received } session gate a []
      (List.range a.lineCount)
    have hend := (hlines.trans (.single rfl)).trans (.single rfl)
    have hall := hfirst.trans (.head rfl hend)
    rw [Controller.rebuild, ha]
    show Serves c _ ⟨c.board.publish (a.readView.run c.received).1, c.active,
      (a.readView.run c.received).2⟩ _
    rw [Accessors.readView_run]
    exact hall

/-- **A command in a row** is `Controller.handle`. -/
theorem Serves.handle {a : Active σ} (ha : c.active = some a) (command : Command) :
    Serves c ⟨a.session, a.gate, .evaluating command⟩ (c.handle command).1
      ⟨(Session.evaluate a.session command).1, a.gate, .finished⟩ := by
  have hserve : (c.serve ⟨a.session, a.gate, .evaluating command⟩).controller =
      { c with
        received := .evaluate command :: c.received
        active := some { a with session := (Session.evaluate a.session command).1 } } := by
    simp only [serve, ha, Option.map_some]
  have hfirst := Serves.single (c := c) (h := ⟨a.session, a.gate, .evaluating command⟩) rfl
  rw [hserve] at hfirst
  have hpushes := hfirst.trans (.pushing _ _ _ (Session.evaluate a.session command).2)
  have hall := hpushes.trans (.rebuild _ _ _)
  rw [Controller.handle, ha]
  exact hall

end Controller

end StoryPlayer
