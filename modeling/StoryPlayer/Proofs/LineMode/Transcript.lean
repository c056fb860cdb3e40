import Mathlib.Data.List.DropRight
import StoryPlayer.LineMode
import StoryPlayer.Proofs.Controller.Commands
import StoryPlayer.Proofs.Text.Utf8
import StoryPlayer.Text.Lines

/-!
# The transcript of a story

Line mode prints whenever its reader finds something new, and not because a command has been given.
What it prints is a transcript of the story all the same: the placeholder, the first view, and what
each command on the lines of the input publishes, down to the line that says `q`. A script that
cannot be loaded is reported, and no command prints anything then.

* `LineMode.commands`: the commands in an input.
* `LineMode.follow_map_encode`: lines that are texts are followed as commands.
* `LineMode.Desk.Plays.handle`: one command.
* `LineMode.printed_run`: every input.
-/

namespace StoryPlayer

/-! ## Performances -/

/-- The views that some commands publish, given the views of the story at its turns, after commands
that have taken it to turn `n`. -/
def Propagation.performance (p : Propagation) (views : List View) : Nat → List Command → List View
  | _, [] => []
  | n, c :: rest => p.publishedUpon views n c ++ p.performance views (turnAfter n c) rest

theorem Propagation.length_publishedUpon_le (p : Propagation) (views : List View) (n : Nat)
    (c : Command) : (p.publishedUpon views n c).length ≤ 1 := by
  cases p with
  | pull => exact Option.length_toList_le
  | push =>
    rw [publishedUpon]
    split
    · exact Option.length_toList_le
    · exact Nat.zero_le 1

namespace LineMode

/-! ## The commands in an input -/

/-- The lines of an input: a line feed ends a line, and what follows the last one is a line unless it
is empty. -/
def inputLines (input : String) : List (List Char) :=
  let lines := input.toList.splitOn '\n'
  if lines.getLast? = some [] then lines.dropLast else lines

/-- The key that a line names. The carriage returns at its end do not count. -/
def key (line : List Char) : String := String.ofList (line.rdropWhile (· = '\r'))

/-- The command that a key stands for; no key is `Enter`. -/
def keyCommand (key : String) : Command := .key (if key = "" then "Enter" else key)

/-- The commands that some keys stand for, up to the first `q`. -/
def commandsUpToQuit (keys : List String) : List Command :=
  (keys.takeWhile (· ≠ "q")).map keyCommand

/-- The commands on the lines of an input. -/
def commands (input : String) : List Command := commandsUpToQuit ((inputLines input).map key)

theorem Order.ofLine_eq (line : List Char) :
    Order.ofLine line = if key line = "q" then .quit else .command (keyCommand (key line)) := by
  show (if key line = "q" then Order.quit
    else if key line = "" then .command (.key "Enter") else .command (.key (key line))) = _
  rw [keyCommand]
  split
  · rfl
  · split
    · rfl
    · rfl

theorem key_dropReturn (line : List Char) : key (Text.dropReturn line) = key line := by
  rw [Text.dropReturn]
  split
  · rename_i h
    obtain ⟨front, rfl⟩ := List.getLast?_eq_some_iff.mp h
    rw [List.dropLast_concat, key, key, List.rdropWhile_concat_pos _ _ _ (by rfl)]
  · rfl

/-- A carriage return is one byte. -/
theorem dropReturn_encode (line : List Char) :
    dropReturn (Utf8.encode line) = Utf8.encode (Text.dropReturn line) := by
  have hlast : (Utf8.encode line).getLast? = some 0x0D ↔ line.getLast? = some '\r' :=
    Utf8.getLast?_encode_eq_some_iff (by decide) (by decide) line
  rw [dropReturn, Text.dropReturn]
  split
  · rename_i h
    rw [hlast] at h
    obtain ⟨front, rfl⟩ := List.getLast?_eq_some_iff.mp h
    rw [if_pos h, List.dropLast_concat, Utf8.encode_append]
    exact List.dropLast_concat
  · rename_i h
    rw [if_neg (hlast.not.mp h)]

/-- The lines of the bytes of an input are texts, and they name the keys on its lines. -/
theorem exists_byteLines_utf8 (input : String) :
    ∃ texts : List (List Char), byteLines (utf8 input) = texts.map Utf8.encode ∧
      texts.map key = (inputLines input).map key := by
  have hsplit : (utf8 input).splitOn 0x0A = (input.toList.splitOn '\n').map Utf8.encode :=
    Utf8.splitOn_encode (by decide) (by decide) input.toList
  obtain ⟨front, last, hlines⟩ : ∃ front last, input.toList.splitOn '\n' = front ++ [last] := by
    rcases (input.toList.splitOn '\n').eq_nil_or_concat with h | ⟨front, last, h⟩
    · exact absurd h (List.splitOn_ne_nil _ _)
    · exact ⟨front, last, by rw [h, List.concat_eq_append]⟩
  have hfront : (front.map Utf8.encode).map dropReturn =
      (front.map Text.dropReturn).map Utf8.encode := by
    rw [List.map_map, List.map_map]
    exact List.map_congr_left fun line _ => dropReturn_encode line
  have hkeys : (front.map Text.dropReturn).map key = front.map key := by
    rw [List.map_map]
    exact List.map_congr_left fun line _ => key_dropReturn line
  simp only [byteLines, inputLines, hsplit, hlines, List.map_append, List.map_cons, List.map_nil,
    List.dropLast_concat, List.getLast?_concat, hfront]
  cases last with
  | nil => exact ⟨front.map Text.dropReturn, by simp [Utf8.encode], by rw [hkeys, if_pos rfl]⟩
  | cons c line =>
    refine ⟨front.map Text.dropReturn ++ [c :: line], ?_, ?_⟩
    · have hne : Utf8.encode (c :: line) ≠ [] := Utf8.encode_ne_nil (List.cons_ne_nil c line)
      rw [List.map_append, Option.filter_some, if_pos (by simpa using hne)]
      rfl
    · rw [List.map_append, hkeys, if_neg (by simp), List.map_append]

theorem follow_encode_cons {σ : Type} [Session σ] (d : Desk σ) (line : List Char)
    (rest : List Bytes) :
    follow d (Utf8.encode line :: rest) =
      if key line = "q" then (d, .ok ()) else follow (d.handle (keyCommand (key line))) rest := by
  simp only [follow, Utf8.decode_encode, Order.ofLine_eq]
  by_cases h : key line = "q"
  · simp only [if_pos h]
  · simp only [if_neg h]

/-- **Lines that are texts are followed as commands**, one after another. -/
theorem follow_map_encode {σ : Type} [Session σ] (d : Desk σ) (texts : List (List Char)) :
    follow d (texts.map Utf8.encode) =
      ((commandsUpToQuit (texts.map key)).foldl Desk.handle d, .ok ()) := by
  induction texts generalizing d with
  | nil => rfl
  | cons line rest ih =>
    rw [List.map_cons, follow_encode_cons, List.map_cons, commandsUpToQuit]
    by_cases h : key line = "q"
    · rw [if_pos h, List.takeWhile_cons_of_neg (by simpa using h)]
      rfl
    · rw [if_neg h, ih, List.takeWhile_cons_of_pos (by simpa using h)]
      rfl

/-! ## What is printed -/

/-- Views as they are printed, one after another. -/
def blocks (views : List View) : String := String.join (views.map block)

theorem blocks_append (vs ws : List View) : blocks (vs ++ ws) = blocks vs ++ blocks ws := by
  rw [blocks, List.map_append, String.join_append]
  rfl

namespace Desk

theorem printNews_of_seen {σ : Type} [Session σ] {d : Desk σ}
    (h : d.reader = .subscribe d.controller.board) : d.printNews = d := by
  have hnews : d.reader.hasNews d.controller.board = false := by
    rw [h, Reader.hasNews, Reader.subscribe]
    simp
  rw [printNews, hnews]
  rfl

/-- A reader that has seen everything finds what has been published since, if it is not more than one
view. -/
theorem printNews_eq {σ : Type} [Session σ] {d : Desk σ} {b : Board} {vs : List View}
    (hreader : d.reader = .subscribe b) (hpub : b.Publishes vs d.controller.board)
    (hlength : vs.length ≤ 1) :
    d.printNews = ⟨d.controller, .subscribe d.controller.board, d.printed ++ blocks vs⟩ := by
  have hcount := hpub.count
  cases vs with
  | nil =>
    have hsame : Reader.subscribe d.controller.board = d.reader := by
      rw [hreader, Reader.subscribe, hcount]
      rfl
    rw [printNews_of_seen hsame.symm, hsame, blocks, List.map_nil, String.join_nil,
      String.append_empty]
  | cons v rest =>
    obtain rfl : rest = [] := List.length_eq_zero_iff.mp (by simpa using hlength)
    have hcurrent : d.controller.board.current = v := hpub.current
    have hnews : d.reader.hasNews d.controller.board = true := by
      rw [hreader, Reader.hasNews, Reader.subscribe, hcount]
      simp
    rw [printNews, if_pos hnews, hcurrent, blocks, List.map_cons, List.map_nil, String.join_cons,
      String.join_nil, String.append_empty]
    rfl

variable {d : Desk ScriptSession} {p : Propagation} {resource : String} {s : Story} {n : Nat}
  {e : ScriptEngine} {sources : Host.Sources} {id : String}

/-- The player has come to turn `n` of a story, and its reader has seen that. -/
structure Plays (p : Propagation) (resource : String) (s : Story) (n : Nat)
    (d : Desk ScriptSession) : Prop where
  plays : d.controller.Plays p resource (s.later n)
  reader : d.reader = .subscribe d.controller.board

/-- **One command** prints what it publishes. -/
theorem Plays.handle (h : d.Plays p resource s n) (c : Command) :
    (d.handle c).Plays p resource s (turnAfter n c) ∧
      (d.handle c).printed = d.printed ++ blocks (p.publishedUpon s.views n c) := by
  obtain ⟨c', hhandle, hplays, hpub⟩ := h.plays.handle_later c
  have hnews : d.handle c =
      ⟨c', .subscribe c'.board, d.printed ++ blocks (p.publishedUpon s.views n c)⟩ := by
    rw [Desk.handle, hhandle]
    exact printNews_eq h.reader hpub (p.length_publishedUpon_le _ _ _)
  rw [hnews]
  exact ⟨⟨hplays, rfl⟩, rfl⟩

theorem Plays.printed_foldl_handle (h : d.Plays p resource s n) (commands : List Command) :
    (commands.foldl Desk.handle d).printed =
      d.printed ++ blocks (p.performance s.views n commands) := by
  induction commands generalizing d n with
  | nil => exact (String.append_empty).symm
  | cons c rest ih =>
    obtain ⟨hplays, hprinted⟩ := h.handle c
    rw [List.foldl_cons, ih hplays, hprinted, Propagation.performance, blocks_append,
      String.append_assoc]

/-- Nothing is printed upon a command as long as there is no story. -/
theorem foldl_handle_of_none (h : d.controller.active = none)
    (hreader : d.reader = .subscribe d.controller.board) (commands : List Command) :
    commands.foldl Desk.handle d = d := by
  have hhandle (c : Command) : d.handle c = d := by
    rw [Desk.handle, Controller.handle_of_none h]
    exact printNews_of_seen hreader
  induction commands with
  | nil => rfl
  | cons c rest ih => rw [List.foldl_cons, hhandle, ih]

/-- What is printed before a story is loaded. -/
def opening : String := greeting ++ help ++ block .placeholder

theorem start_of_load {σ : Type} [Session σ] {engine : Engine σ} {resource : String}
    {c : Controller σ} {result : Except LoadError LoadOutcome}
    (h : (Controller.fresh : Controller σ).load engine resource = (c, result)) :
    start engine resource =
      printNews ⟨c, .subscribe .fresh,
        match result with
        | .error err => opening ++ ("! " ++ err.chain ++ "\n")
        | .ok _ => opening⟩ := by
  simp only [start, h]
  cases result with
  | error err => rfl
  | ok outcome => rfl

theorem start_of_load_ok {tokens : List Script.Token} (h : e.load sources id = .ok tokens) :
    (start (e.engine sources) id).Plays e.propagation id (Story.ofTokens tokens).run 0 ∧
      (start (e.engine sources) id).printed =
        opening ++ blocks ((Story.ofTokens tokens).run.views.take 1) := by
  obtain ⟨c, hload, hplays, hpub⟩ := Controller.load_script_ok (c := .fresh) rfl h
  have hfirst : (Story.ofTokens tokens).run.views.take 1 = [(Story.ofTokens tokens).run.view] := by
    rw [Story.views, Story.turns]
    rfl
  have hlength : [(Story.ofTokens tokens).run.view].length ≤ 1 := Nat.le_refl 1
  rw [hfirst, start_of_load hload, printNews_eq rfl hpub hlength]
  exact ⟨⟨hplays, rfl⟩, rfl⟩

theorem start_of_load_error {err : LoadError} (h : e.load sources id = .error err) :
    (start (e.engine sources) id).controller.active = none ∧
      (start (e.engine sources) id).reader =
        .subscribe (start (e.engine sources) id).controller.board ∧
      (start (e.engine sources) id).printed = opening ++ ("! " ++ err.chain ++ "\n") := by
  obtain ⟨c, hload, hactive, hpub⟩ := Controller.load_script_error (c := .fresh) rfl h
  have hreader : Reader.subscribe .fresh = .subscribe c.board := by
    rw [Reader.subscribe, Reader.subscribe, hpub.count]
    rfl
  rw [start_of_load hload, printNews_of_seen hreader]
  exact ⟨hactive, hreader, rfl⟩

end Desk

/-! ## The transcript -/

/-- All that is printed: the opening, and then the complaint about a script that cannot be loaded, or
the first view of the story and what each command publishes. -/
def transcript (e : ScriptEngine) (sources : Host.Sources) (id input : String) : String :=
  Desk.opening ++
    match e.load sources id with
    | .error err => "! " ++ err.chain ++ "\n"
    | .ok tokens =>
      let views := (Story.ofTokens tokens).run.views
      blocks (views.take 1 ++ e.propagation.performance views 0 (commands input))

/-- **Line mode prints the transcript of the story** and ends well, for every input that is a text. -/
theorem printed_run (e : ScriptEngine) (sources : Host.Sources) (id input : String) :
    (run (e.engine sources) id (utf8 input)).1.printed = transcript e sources id input ∧
      (run (e.engine sources) id (utf8 input)).2 = .ok () := by
  obtain ⟨texts, hlines, hkeys⟩ := exists_byteLines_utf8 input
  have hrun : run (e.engine sources) id (utf8 input) =
      ((commands input).foldl Desk.handle (Desk.start (e.engine sources) id), .ok ()) := by
    rw [run, hlines, follow_map_encode, hkeys, commands]
  rw [hrun]
  refine ⟨?_, rfl⟩
  rw [transcript]
  cases h : e.load sources id with
  | error err =>
    obtain ⟨hactive, hreader, hprinted⟩ := Desk.start_of_load_error h
    rw [Desk.foldl_handle_of_none hactive hreader]
    exact hprinted
  | ok tokens =>
    obtain ⟨hplays, hprinted⟩ := Desk.start_of_load_ok h
    rw [hplays.printed_foldl_handle, hprinted, String.append_assoc, ← blocks_append]

end LineMode

end StoryPlayer
