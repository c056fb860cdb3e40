import StoryPlayer.Proofs.Script.TagBody
import StoryPlayer.Script.Reader

/-!
# Scripts one after another

A script is read part by part between its line feeds (`parse_eq`): a carriage return before a line
feed is trimmed with its line, and an empty part at the end carries nothing.  So the tokens of two
scripts on successive lines are those of the first and then those of the second, and the first fault
is that of the first, or that of the second with its line counted on (`parse_append_feed`).

* `LineEnd`: the two ways to end a line.
* `parse_append_respell`: how the lines of a script end does not matter.
* `parse_successive`: what a script is read as, given how its two parts are.
-/

namespace StoryPlayer.Script

open Text (isBlank lines dropReturn)

/-! ## Parts of a script -/

/-- An error in a text with `n` more lines in front of it. -/
def Error.later (n : Nat) (e : Error) : Error := { e with line := e.line + n }

theorem lineTokens_dropReturn (line : List Char) : lineTokens (dropReturn line) = lineTokens line := by
  rw [lineTokens, Text.trim_dropReturn, ← lineTokens]

theorem lineTokens_concat_of_isBlank {c : Char} (hc : isBlank c = true) (line : List Char) :
    lineTokens (line ++ [c]) = lineTokens line := by
  rw [lineTokens, Text.trim_concat_of_isBlank hc, ← lineTokens]

theorem tokensFrom_singleton (number : Nat) (line : List Char) :
    tokensFrom number [line] = (lineTokens line).mapError (Error.mk number) := by
  rw [tokensFrom, tokensFrom]
  cases lineTokens line with
  | error fault => rfl
  | ok ts => exact congrArg Except.ok (List.append_nil ts)

theorem tokensFrom_append (number : Nat) (ls ls' : List (List Char)) :
    tokensFrom number (ls ++ ls') = do
      let ts ← tokensFrom number ls
      let us ← tokensFrom (number + ls.length) ls'
      return ts ++ us := by
  induction ls generalizing number with
  | nil =>
    rw [List.nil_append, tokensFrom]
    exact (bind_pure _).symm
  | cons line ls ih =>
    rw [List.cons_append, tokensFrom, tokensFrom, ih, List.length_cons,
      Nat.add_right_comm number 1, ← Nat.add_assoc]
    simp only [bind_assoc, pure_bind, List.append_assoc]

theorem tokensFrom_add (number n : Nat) (ls : List (List Char)) :
    tokensFrom (number + n) ls = (tokensFrom number ls).mapError (Error.later n) := by
  induction ls generalizing number with
  | nil => rfl
  | cons line ls ih =>
    rw [tokensFrom, tokensFrom, Nat.add_right_comm, ih]
    cases lineTokens line with
    | error fault => rfl
    | ok here =>
      cases tokensFrom (number + 1) ls with
      | error e => rfl
      | ok there => rfl

/-- The lines of a text give what its parts between line feeds give. -/
theorem tokensFrom_lines (number : Nat) (cs : List Char) :
    tokensFrom number (lines cs) = tokensFrom number (cs.splitOn '\n') := by
  induction hn : cs.length using Nat.strong_induction_on generalizing number cs with
  | _ n ih =>
    by_cases hc : '\n' ∈ cs
    · obtain ⟨line, rest, rfl, hline⟩ := List.eq_append_cons_of_mem hc
      have hlen : rest.length < n := by
        rw [← hn, List.length_append, List.length_cons]
        omega
      rw [Text.lines_append hline, Text.splitOn_append_cons, Text.splitOn_of_not_mem hline,
        List.singleton_append, tokensFrom, tokensFrom, lineTokens_dropReturn, ih _ hlen _ _ rfl]
    · rw [Text.splitOn_of_not_mem hc]
      cases cs with
      | nil =>
        rw [Text.lines_nil, tokensFrom_singleton]
        rfl
      | cons c cs => rw [Text.lines_of_not_mem hc (List.cons_ne_nil c cs)]

theorem parse_eq (s : String) : parse s = tokensFrom 1 (s.toList.splitOn '\n') :=
  tokensFrom_lines 1 s.toList

/-- A script without line feeds is one line. -/
theorem parse_line {cs : List Char} (h : '\n' ∉ cs) :
    parse (String.ofList cs) = (lineTokens cs).mapError (Error.mk 1) := by
  rw [parse_eq, String.toList_ofList, Text.splitOn_of_not_mem h, tokensFrom_singleton]

/-! ## Two scripts -/

/-- **A script that is cut at a line feed.** -/
theorem parse_append_feed (s t : String) :
    parse (s ++ "\n" ++ t) = do
      let ts ← parse s
      let us ← (parse t).mapError (Error.later (s.toList.count '\n' + 1))
      return ts ++ us := by
  have hparts : (s ++ "\n" ++ t).toList.splitOn '\n' =
      s.toList.splitOn '\n' ++ t.toList.splitOn '\n' := by
    rw [String.toList_append, String.toList_append, List.append_assoc]
    exact Text.splitOn_append_cons '\n' s.toList t.toList
  rw [parse_eq, hparts, tokensFrom_append, Text.length_splitOn, tokensFrom_add, ← parse_eq,
    ← parse_eq]

/-- A carriage return at the end of a script is trimmed with its last line. -/
theorem parse_append_return (s : String) : parse (s ++ "\r") = parse s := by
  obtain ⟨front, last, hs, hall⟩ :=
    Text.exists_splitOnP_concat (p := (· == '\n')) s.toList (x := '\r') (by decide)
  rw [parse_eq, parse_eq, String.toList_append, List.splitOn_eq_splitOnP, List.splitOn_eq_splitOnP]
  change tokensFrom 1 ((s.toList ++ ['\r']).splitOnP _) = _
  rw [hs, hall, tokensFrom_append, tokensFrom_append, tokensFrom_singleton, tokensFrom_singleton,
    lineTokens_concat_of_isBlank (by decide)]

/-! ## Ends of lines -/

/-- The two ways to end a line. -/
inductive LineEnd where
  | feed
  | returnFeed
  deriving DecidableEq, Repr

namespace LineEnd

def text : LineEnd → String
  | feed => "\n"
  | returnFeed => "\r\n"

/-- A text whose ends of lines are replaced, each `e` by `f e`. -/
def respell (f : LineEnd → LineEnd) : List Char → List Char
  | [] => []
  | '\r' :: '\n' :: rest => (f returnFeed).text.toList ++ respell f rest
  | '\n' :: rest => (f feed).text.toList ++ respell f rest
  | c :: rest => c :: respell f rest

end LineEnd

theorem parse_append_lineEnd (s t : String) (e : LineEnd) :
    parse (s ++ e.text ++ t) = parse (s ++ "\n" ++ t) := by
  cases e with
  | feed => rfl
  | returnFeed =>
    have hcount : (s ++ "\r").toList.count '\n' = s.toList.count '\n' := by
      rw [String.toList_append, List.count_append]
      rfl
    have hsplit : s ++ LineEnd.returnFeed.text ++ t = s ++ "\r" ++ "\n" ++ t := by
      have htext : LineEnd.returnFeed.text = "\r" ++ "\n" := rfl
      rw [htext, ← String.append_assoc]
    rw [hsplit, parse_append_feed, parse_append_return, hcount, ← parse_append_feed]

/-- What follows a line may be replaced by what is read as the same, and the end of the line too. -/
theorem parse_append_congr (s : String) {t u : String} (h : parse t = parse u) (e e' : LineEnd) :
    parse (s ++ e.text ++ t) = parse (s ++ e'.text ++ u) := by
  rw [parse_append_lineEnd, parse_append_lineEnd, parse_append_feed, parse_append_feed, h]

/-- After a text that is left alone, how lines end does not matter. -/
theorem parse_append_respell (f : LineEnd → LineEnd) (s : String) (cs : List Char) :
    parse (s ++ String.ofList (LineEnd.respell f cs)) = parse (s ++ String.ofList cs) := by
  have hend (e : LineEnd) (s : String) (cs : List Char) :
      s ++ String.ofList (e.text.toList ++ cs) = s ++ e.text ++ String.ofList cs := by
    rw [String.ofList_append, String.ofList_toList, String.append_assoc]
  fun_induction LineEnd.respell f cs generalizing s with
  | case1 => rfl
  | case2 rest ih =>
    have hrest := ih ""
    rw [String.empty_append, String.empty_append] at hrest
    rw [hend, show '\r' :: '\n' :: rest = LineEnd.returnFeed.text.toList ++ rest from rfl, hend]
    exact parse_append_congr s hrest _ _
  | case3 rest ih =>
    have hrest := ih ""
    rw [String.empty_append, String.empty_append] at hrest
    rw [hend, show '\n' :: rest = LineEnd.feed.text.toList ++ rest from rfl, hend]
    exact parse_append_congr s hrest _ _
  | case4 c rest _ _ ih =>
    have hcons (cs : List Char) : s ++ String.ofList (c :: cs) =
        s ++ String.ofList [c] ++ String.ofList cs := by
      rw [String.append_assoc, ← String.ofList_append, List.singleton_append]
    rw [hcons, hcons rest]
    exact ih _

/-- **Scripts on successive lines are read one after another.**  The first fault in the first of them
is the first of both; one in the second is on a line that is counted on from the lines in front.  So
it does not matter how lines end. -/
theorem parse_successive (s t : String) (e : LineEnd) (f : LineEnd → LineEnd) :
    (parse (s ++ e.text ++ t) =
      match parse s, parse t with
      | .error err, _ => .error err
      | .ok ts, .ok us => .ok (ts ++ us)
      | .ok _, .error err => .error ⟨err.line + s.toList.count '\n' + 1, err.fault⟩) ∧
    parse (String.ofList (LineEnd.respell f s.toList)) = parse s := by
  constructor
  · rw [parse_append_lineEnd, parse_append_feed]
    cases parse s with
    | error err => rfl
    | ok ts =>
      cases parse t with
      | error err => rfl
      | ok us => rfl
  · have h := parse_append_respell f "" s.toList
    rwa [String.empty_append, String.empty_append, String.ofList_toList] at h

example : parse "a\r\n\n[b" = .error ⟨3, .unterminatedTag "b"⟩ := by cbv

end StoryPlayer.Script
