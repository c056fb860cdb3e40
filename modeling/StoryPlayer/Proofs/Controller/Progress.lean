import StoryPlayer.Proofs.Controller.Office

/-!
# Whoever holds the session gets done

The one who holds the session takes only so many steps, each of which does what is due next, and what
happens between them does not disturb it. So if it is served often enough, it does all that is due
and lets the session go, whatever else happens in the meantime.

* `Hold.size`: how many steps are left, and `Controller.size_serve`: each step is one of them.
* `Office.happen_of_held`: what else happens changes nothing of it.
* `Office.Dealing.happen_serve`: one step, and `Office.exists_finished`: all of them.
-/

namespace StoryPlayer

/-! ## How many steps are left -/

namespace Hold

variable {σ : Type} [Session σ]

/-- How many steps it takes to ask whether a session can be read, and to read and publish it. -/
def readingSize (session : σ) : Nat :=
  match Session.accessors? session with
  | none => 1
  | some a => a.lineCount + 4

/-- How many steps are left before the session can be let go. -/
def size (h : Hold σ) : Nat :=
  match h.progress with
  | .evaluating c =>
    (Session.evaluate h.session c).2.length + readingSize (Session.evaluate h.session c).1 + 1
  | .pushing views => views.length + readingSize h.session
  | .counting a => a.lineCount + 3
  | .reading _ _ rest => rest.length + 2
  | .showing _ => 1
  | .finished => 0

end Hold

namespace Controller

variable {σ : Type} [Session σ]

/-- Every step is one less. -/
theorem size_serve (c : Controller σ) {h : Hold σ} (hp : h.progress.isFinished = false) :
    (c.serve h).hold.size + 1 = h.size := by
  obtain ⟨session, gate, progress⟩ := h
  cases progress with
  | evaluating command => rfl
  | pushing views =>
    cases views with
    | cons v views => exact Nat.add_right_comm _ _ _
    | nil =>
      simp only [serve, Hold.size, Hold.readingSize, List.length_nil, Nat.zero_add]
      cases Session.accessors? session with
      | none => rfl
      | some a => rfl
  | counting a =>
    show (List.range a.lineCount).length + 2 + 1 = a.lineCount + 3
    rw [List.length_range]
  | reading a text rest =>
    cases rest with
    | nil => rfl
    | cons i rest => rfl
  | showing v => rfl
  | finished => cases hp

end Controller

/-! ## What happens in between -/

namespace Office

variable {σ : Type} [Session σ] {engine : Engine σ} {o : Office σ} {s : Service σ}

/-- Whether the one who holds the session is served. -/
def Event.isServe : Event → Bool
  | .serve => true
  | _ => false

/-- What else happens does not disturb the one who holds the session. -/
theorem happen_of_held (engine : Engine σ) (hs : o.service = some s) {e : Event}
    (he : e.isServe = false) :
    (o.happen engine e).service = some s ∧ (o.happen engine e).dealings = o.dealings ∧
      (o.happen engine e).obtained = o.obtained := by
  cases e with
  | serve => cases he
  | push gate v => exact ⟨hs, dealings_note_pushed _ _, rfl⟩
  | obtain caller =>
    have hsame : o.happen engine (.obtain caller) = o := by rw [happen, Office.obtain, hs]
    rw [hsame]
    exact ⟨hs, rfl, rfl⟩
  | among e =>
    cases e with
    | ask caller => exact ⟨hs, rfl, rfl⟩
    | step =>
      rw [happen]
      split
      · rename_i a session _
        have hsame : o.establish a session = o := by rw [establish, hs]
        rw [hsame]
        exact ⟨hs, rfl, rfl⟩
      · exact ⟨hs, dealings_note_pushed _ _, rfl⟩
    | come request =>
      cases request with
      | load resource => exact ⟨hs, rfl, rfl⟩
      | input command =>
        rw [happen, comeInput]
        split
        · exact ⟨hs, rfl, rfl⟩
        · exact ⟨hs, rfl, rfl⟩

/-- Nothing that has been noted is taken back. -/
theorem prefix_notes {o' : Office σ} (h : Happens engine o o') : o.notes <+: o'.notes := by
  cases h with
  | idle => exact List.prefix_refl _
  | attend => exact List.prefix_append _ _
  | come command =>
    rw [comeInput]
    split
    · exact List.prefix_refl _
    · exact List.prefix_refl _
  | establish made free =>
    rw [establish, free]
    exact List.prefix_append _ _
  | obtain caller =>
    rw [Office.obtain]
    split
    · exact List.prefix_refl _
    · exact List.prefix_refl _
  | goOn => exact List.prefix_append _ _
  | release =>
    rw [release]
    split
    · exact List.prefix_refl _
    · exact List.prefix_refl _
    · exact List.prefix_refl _
  | push => exact List.prefix_append _ _

theorem prefix_dealings_foldl (engine : Engine σ) (o : Office σ) (events : List Event) :
    o.dealings <+: (events.foldl (happen engine) o).dealings := by
  induction events generalizing o with
  | nil => exact List.prefix_refl _
  | cons e rest ih => exact ((prefix_notes (happens_happen engine o e)).filter _).trans (ih _)

/-! ## Getting done -/

/-- How many steps are left before the session is let go, if somebody holds it. -/
def size (o : Office σ) : Nat := (o.service.map fun s => s.hold.size).getD 0

/-- **Whoever holds the session gets done** if it is served often enough, and is then about to let it
go. -/
theorem exists_finished (engine : Engine σ) (hs : o.service = some s) {later : List Event}
    (hn : s.hold.size < later.countP Event.isServe) :
    ∃ before after s', later = before ++ .serve :: after ∧
      (before.foldl (happen engine) o).service = some s' ∧ s'.hold.progress = .finished ∧
      (before.foldl (happen engine) o).dealings = o.dealings ++ o.due ∧
      (before.foldl (happen engine) o).obtained = o.obtained := by
  induction later generalizing o s with
  | nil => cases hn
  | cons e rest ih =>
    cases he : e.isServe with
    | false =>
      obtain ⟨hservice, hdealings, hobtained⟩ := happen_of_held engine hs he
      rw [List.countP_cons_of_neg (Bool.eq_false_iff.mp he)] at hn
      obtain ⟨before, after, s', hrest, hfinished⟩ := ih hservice hn
      have hdue : (o.happen engine e).due = o.due := by
        rw [due_of_some hservice, due_of_some hs]
      rw [hdealings, hdue, hobtained] at hfinished
      exact ⟨e :: before, after, s', by rw [hrest]; rfl, hfinished⟩
    | true =>
      obtain rfl : e = .serve := by
        cases e with
        | serve => rfl
        | _ => cases he
      rw [List.countP_cons_of_pos he] at hn
      cases hp : s.hold.progress.isFinished with
      | true =>
        have hfinished := Progress.eq_finished hp
        have hdue : o.due = [] := by rw [due_of_some hs, Hold.due, hfinished]
        refine ⟨[], rest, s, rfl, hs, hfinished, ?_, rfl⟩
        rw [hdue, List.append_nil]
        rfl
      | false =>
        have hstep := happen_serve_of_unfinished engine hs hp
        have hsize : (o.controller.serve s.hold).hold.size < rest.countP Event.isServe := by
          have := Controller.size_serve o.controller hp
          omega
        obtain ⟨before, after, s', hrest, hservice, hfinished, hdealings, hobtained⟩ :=
          ih (o := o.goOn s) (s := ⟨s.caller?, (o.controller.serve s.hold).hold⟩) rfl hsize
        refine ⟨.serve :: before, after, s', by rw [hrest]; rfl, ?_⟩
        rw [List.foldl_cons, hstep, due_of_some hs, ← dealings_goOn]
        exact ⟨hservice, hfinished, hdealings, hobtained⟩

/-- Whoever is done lets the session go. -/
theorem Dealing.service_release (h : Dealing engine o) (hs : o.service = some s) :
    (o.release s).service = none ∧ (o.release s).dealings = o.dealings ∧
      (o.release s).obtained = o.obtained := by
  rw [Office.release]
  cases h.phase with
  | unloaded active service => cases hs.symm.trans service
  | free a first active service => cases hs.symm.trans service
  | opening a first hold active service made =>
    cases hs.symm.trans service
    rw [(Room.made?_eq_some made).1]
    exact ⟨rfl, rfl, rfl⟩
  | held a first caller command hold before active service =>
    cases hs.symm.trans service
    exact ⟨rfl, rfl, rfl⟩

/-- **A step does what is due next**, or lets the session go when nothing is due. -/
theorem Dealing.happen_serve (h : Dealing engine o) :
    ∃ done, (o.happen engine .serve).dealings = o.dealings ++ done ∧
      done ++ (o.happen engine .serve).due = o.due := by
  cases hs : o.service with
  | none =>
    have hsame : o.happen engine .serve = o := by rw [Office.happen, hs]
    exact ⟨[], by rw [hsame, List.append_nil], by rw [hsame, List.nil_append]⟩
  | some s =>
    cases hp : s.hold.progress.isFinished with
    | true =>
      have hfinished := Progress.eq_finished hp
      obtain ⟨hservice, hdealings, -⟩ := h.service_release hs
      rw [happen_serve_of_finished engine hs hfinished]
      refine ⟨[], hdealings.trans (List.append_nil _).symm, ?_⟩
      rw [due_of_none hservice, due_of_some hs, Hold.due, hfinished]
      rfl
    | false =>
      rw [happen_serve_of_unfinished engine hs hp]
      obtain ⟨done, hdone⟩ : o.dealings <+: (o.goOn s).dealings :=
        (List.prefix_append _ _).filter _
      have hnext := dealings_goOn o s
      rw [← hdone, List.append_assoc, ← due_of_some hs] at hnext
      exact ⟨done, hdone.symm, List.append_cancel_left hnext⟩

end Office

end StoryPlayer
