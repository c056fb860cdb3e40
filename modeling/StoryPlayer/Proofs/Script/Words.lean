import StoryPlayer.Proofs.Script.Attributes
import StoryPlayer.Proofs.Script.Concatenation
import StoryPlayer.Proofs.Script.Printer

/-!
# The meaning of a tag body

A body is cut at its blanks outside of quotations, and the pieces are its words without the quotes
(`bodyPieces`, `bodyWords`).  `wordsFrom` reads them in one pass: at each character, the word that has
begun is the front of the piece that goes on there (`wordsFrom_eq`, by induction on what is left of the
body, with what is read kept as a parameter).

* `ofBody_eq`: the tag of a body, or its fault, by its pieces.
* `parse_bracket`, `parse_lineTag`, `parse_midTag`: the three places where a body can stand.
* `ofBody_meaning`: all of it together, with the attributes by what is found in them.
-/

namespace StoryPlayer.Script

open Text (isBlank IsTrimmed trim)

/-! ## Pieces of a body -/

/-- Whether the character at an index of a body is quoted: an odd number of quotes stands before it. -/
def isQuoted (body : List Char) (i : Nat) : Bool := (body.take i).count '"' % 2 = 1

/-- Whether a body is cut at a character with its index: at a blank that is not quoted. -/
def isCut (body : List Char) (e : Char × Nat) : Bool := isBlank e.1 && !isQuoted body e.2

/-- Characters without their indices, and without quotes. -/
def unquote (piece : List (Char × Nat)) : List Char := (piece.map Prod.fst).filter (· ≠ '"')

/-- The pieces of a body between its cuts, without quotes. -/
def bodyPieces (body : List Char) : List (List Char) :=
  (body.zipIdx.splitOnP (isCut body)).map unquote

/-- The words of a body: its pieces that are not empty. -/
def bodyWords (body : List Char) : List (List Char) := (bodyPieces body).filter (· ≠ [])

/-- The pieces of `rest` in a body that goes on with it after `front`. -/
def piecesAfter (front rest : List Char) : List (List Char) :=
  ((rest.zipIdx front.length).splitOnP (isCut (front ++ rest))).map unquote

theorem piecesAfter_ne_nil (front rest : List Char) : piecesAfter front rest ≠ [] := by
  simp [piecesAfter, List.splitOnP_ne_nil]

theorem bodyPieces_ne_nil (body : List Char) : bodyPieces body ≠ [] := piecesAfter_ne_nil [] body

theorem piecesAfter_nil (front : List Char) : piecesAfter front [] = [[]] := rfl

theorem isCut_append (front rest : List Char) (c : Char) :
    isCut (front ++ rest) (c, front.length) = (isBlank c && !decide (front.count '"' % 2 = 1)) := by
  rw [isCut, isQuoted, List.take_left]

theorem unquote_cons (e : Char × Nat) (piece : List (Char × Nat)) :
    unquote (e :: piece) = [e.1].filter (· ≠ '"') ++ unquote piece := by
  rw [unquote, List.map_cons, ← List.singleton_append, List.filter_append, ← unquote]

variable {front : List Char} {c : Char}

/-- A blank that is not quoted ends a piece. -/
theorem piecesAfter_cut (hc : isBlank c = true) (hq : ¬front.count '"' % 2 = 1)
    (rest : List Char) : piecesAfter front (c :: rest) = [] :: piecesAfter (front ++ [c]) rest := by
  rw [piecesAfter, List.zipIdx_cons, List.splitOnP_cons_eq_if_modifyHead, isCut_append,
    if_pos (by simp [hc, hq]), piecesAfter, List.length_append, List.append_assoc]
  rfl

/-- Any other character belongs to the first piece, unless it is a quote. -/
theorem piecesAfter_uncut (hc : isBlank c = true → front.count '"' % 2 = 1) (rest : List Char) :
    piecesAfter front (c :: rest) =
      (piecesAfter (front ++ [c]) rest).modifyHead ([c].filter (· ≠ '"') ++ ·) := by
  have hmap (e : Char × Nat) (ps : List (List (Char × Nat))) :
      (ps.modifyHead (List.cons e)).map unquote =
        (ps.map unquote).modifyHead ([e.1].filter (· ≠ '"') ++ ·) := by
    cases ps with
    | nil => rfl
    | cons p ps => rw [List.modifyHead_cons, List.map_cons, unquote_cons]; rfl
  rw [piecesAfter, List.zipIdx_cons, List.splitOnP_cons_eq_if_modifyHead, isCut_append,
    if_neg (by simpa using hc), piecesAfter, List.length_append, List.append_assoc, hmap]
  rfl

/-! ## Reading words -/

/-- What a body is read as, given its pieces and whether a quotation is left open. -/
def readPieces (isOpen : Bool) (pieces : List (List Char)) : Except Fault (List (List Char)) :=
  if isOpen then .error (.unterminatedQuote (String.ofList (keyPart (pieces.getLastD []))))
  else .ok (pieces.filter (· ≠ []))

theorem readPieces_cons (isOpen : Bool) (piece : List Char) {pieces : List (List Char)}
    (hne : pieces ≠ []) :
    readPieces isOpen (piece :: pieces) = do
      let words ← readPieces isOpen pieces
      return if piece.isEmpty then words else piece :: words := by
  obtain ⟨p, ps, rfl⟩ := List.exists_cons_of_ne_nil hne
  cases isOpen with
  | true => rfl
  | false =>
    rw [readPieces, readPieces, if_neg Bool.false_ne_true, if_neg Bool.false_ne_true]
    cases piece with
    | nil => rfl
    | cons c piece => rfl

theorem modifyHead_nil_append (pieces : List (List Char)) :
    pieces.modifyHead ([] ++ ·) = pieces := by
  cases pieces <;> rfl

/-- **The word that has begun is the front of the piece that goes on.** -/
theorem wordsFrom_eq (front word rest : List Char) :
    wordsFrom (front.count '"' % 2 = 1) word rest =
      readPieces ((front ++ rest).count '"' % 2 = 1)
        ((piecesAfter front rest).modifyHead (word.reverse ++ ·)) := by
  induction rest generalizing front word with
  | nil =>
    rw [wordsFrom, piecesAfter_nil, List.append_nil, readPieces, List.modifyHead_cons,
      List.append_nil]
    split
    · rfl
    · cases word with
      | nil => rfl
      | cons c word => simp
  | cons c rest ih =>
    have hcount : (front ++ [c]).count '"' = front.count '"' + [c].count '"' := List.count_append
    have hfront : front ++ c :: rest = front ++ [c] ++ rest := by simp
    have ih := ih (front ++ [c])
    rw [wordsFrom, hfront]
    by_cases hc : c = '"'
    · subst hc
      have hodd : decide ((front ++ ['"']).count '"' % 2 = 1) = !decide (front.count '"' % 2 = 1) := by
        rw [hcount, ← decide_not, decide_eq_decide]
        change (_ + 1) % 2 = 1 ↔ _
        omega
      rw [if_pos rfl, ← hodd, ih,
        piecesAfter_uncut (fun h => absurd h (by decide)), List.modifyHead_modifyHead]
      rfl
    · have heven : (front ++ [c]).count '"' = front.count '"' := by
        rw [hcount, List.count_singleton, if_neg (by simpa using hc), Nat.add_zero]
      rw [heven] at ih
      rw [if_neg hc]
      split
      · next hcut =>
        rw [Bool.and_eq_true, Bool.not_eq_true', decide_eq_false_iff_not] at hcut
        have ih := ih []
        rw [decide_eq_false hcut.2, List.reverse_nil, modifyHead_nil_append] at ih
        rw [ih, piecesAfter_cut hcut.1 hcut.2, List.modifyHead_cons, List.append_nil,
          readPieces_cons _ _ (piecesAfter_ne_nil _ _), List.isEmpty_reverse]
      · next hcut =>
        have hq : isBlank c = true → front.count '"' % 2 = 1 := by simpa using hcut
        have hword : (word.reverse ++ ·) ∘ ([c].filter (· ≠ '"') ++ ·) = ((c :: word).reverse ++ ·) := by
          funext piece
          simp [hc]
        rw [ih, piecesAfter_uncut hq, List.modifyHead_modifyHead, hword]

theorem words_eq (body : List Char) :
    words body = readPieces (body.count '"' % 2 = 1) (bodyPieces body) := by
  have h := wordsFrom_eq [] [] body
  rw [List.reverse_nil, modifyHead_nil_append] at h
  exact h

example : bodyWords "bg \"\" storage=\"a b\"c".toList = ["bg".toList, "storage=a bc".toList] := by
  decide

/-! ## Keys and values -/

/-- The value that a word gives: what stands after its first `=`, or `true`. -/
def valuePart (word : List Char) : List Char :=
  if '=' ∈ word then (word.dropWhile (· ≠ '=')).tail else "true".toList

/-- The value that some words give a key: that of the last word with this key. -/
def lastValue? (ws : List (List Char)) (key : String) : Option String :=
  (ws.filter fun w => String.ofList (keyPart w) = key).getLast?.map fun w =>
    String.ofList (valuePart w)

theorem keyValue_eq (word : List Char) :
    keyValue word = (String.ofList (keyPart word), String.ofList (valuePart word)) := by
  by_cases h : '=' ∈ word
  · obtain ⟨key, value, rfl, hkey⟩ := List.eq_append_cons_of_mem h
    rw [keyValue_append hkey, keyPart, Text.takeWhile_ne_append hkey, valuePart, if_pos h,
      Text.dropWhile_ne_append hkey, List.tail_cons]
  · have hall := Text.decide_ne_of_not_mem h
    rw [keyValue, List.dropWhile_eq_nil_iff.mpr hall, keyPart, List.takeWhile_eq_self_iff.mpr hall,
      valuePart, if_neg h, String.ofList_toList]

/-- Of some attributes that are set one after another, the last one with a key counts. -/
theorem get?_setAll (t : Tag) (es : List (String × String)) (key : String) :
    (t.setAll es).get? key =
      ((es.filter fun e => e.1 = key).getLast?.map Prod.snd).or (t.get? key) := by
  induction es generalizing t with
  | nil => rfl
  | cons e es ih =>
    have hset : (t.set e.1 e.2).get? key = if e.1 = key then some e.2 else t.get? key :=
      Attributes.get?_insert t.attributes e.1 e.2 key
    rw [Tag.setAll, List.foldl_cons, ← Tag.setAll, ih, hset]
    by_cases he : e.1 = key
    · rw [if_pos he, List.filter_cons_of_pos (by simpa using he), List.getLast?_cons]
      cases (es.filter fun e => e.1 = key).getLast? <;> rfl
    · rw [if_neg he, List.filter_cons_of_neg (by simpa using he)]

theorem get?_ofWords (name : List Char) (ws : List (List Char)) (key : String) :
    (Tag.ofWords name ws).get? key = lastValue? ws key := by
  rw [Tag.ofWords_eq, get?_setAll, List.filter_map, List.getLast?_map, Option.map_map, lastValue?]
  simp only [Function.comp_def, keyValue_eq]
  exact Option.or_none

theorem name_ofWords (name : List Char) (ws : List (List Char)) :
    (Tag.ofWords name ws).name = String.ofList name := by
  rw [Tag.ofWords_eq, Tag.setAll_name]
  rfl

theorem Tag.ext_get? {t u : Tag} (hname : t.name = u.name) (h : ∀ key, t.get? key = u.get? key) :
    t = u := by
  obtain ⟨name, attributes⟩ := t
  obtain ⟨name', attributes'⟩ := u
  obtain rfl : attributes = attributes' := Attributes.ext_get? h
  obtain rfl : name = name' := hname
  rfl

/-- A tag is that of some words if it has the name and what is found in it is what they give. -/
theorem eq_ofWords_iff {tag : Tag} {name : List Char} {ws : List (List Char)} :
    tag = Tag.ofWords name ws ↔
      tag.name = String.ofList name ∧ ∀ key, tag.get? key = lastValue? ws key := by
  constructor
  · rintro rfl
    exact ⟨name_ofWords name ws, get?_ofWords name ws⟩
  · rintro ⟨hname, hvalue⟩
    refine Tag.ext_get? (hname.trans (name_ofWords name ws).symm) fun key => ?_
    rw [hvalue, get?_ofWords]

/-- **The tag of a body, or its fault, by its pieces.** -/
theorem ofBody_eq (body : List Char) :
    Tag.ofBody body =
      if body.count '"' % 2 = 1 then
        .error (.unterminatedQuote
          (String.ofList (keyPart ((bodyPieces body).getLast (bodyPieces_ne_nil body)))))
      else
        match bodyWords body with
        | [] => .error .emptyTag
        | name :: rest => if '=' ∈ name then .error .emptyTag else .ok (Tag.ofWords name rest) := by
  rw [Tag.ofBody, words_eq, readPieces]
  by_cases hq : body.count '"' % 2 = 1
  · have hlast : (bodyPieces body).getLastD [] = (bodyPieces body).getLast (bodyPieces_ne_nil body) := by
      rw [List.getLastD_eq_getLast?, List.getLast?_eq_some_getLast (bodyPieces_ne_nil body)]
      rfl
    rw [if_pos hq, if_pos (decide_eq_true hq), hlast]
    rfl
  · rw [if_neg hq, if_neg (by simpa using hq), ← bodyWords]
    change (match bodyWords body with
      | [] => Except.error Fault.emptyTag
      | name :: rest => if name.contains '=' then _ else _) = _
    cases bodyWords body with
    | nil => rfl
    | cons name rest =>
      change (if name.contains '=' then _ else _) = if '=' ∈ name then _ else _
      simp only [List.contains_iff_mem]
      rfl

/-! ## Where a body stands -/

/-- A body that can stand in brackets as well as behind `@`. -/
structure IsPortable (body : List Char) : Prop where
  no_feed : '\n' ∉ body
  no_bracket : ']' ∉ body
  head_bracket : body.head? ≠ some '['
  head_at : body.head? ≠ some '@'
  not_blank : ∀ c ∈ body.getLast?, isBlank c = false

instance (body : List Char) : Decidable (IsPortable body) :=
  decidable_of_iff ('\n' ∉ body ∧ ']' ∉ body ∧ body.head? ≠ some '[' ∧ body.head? ≠ some '@' ∧
      body.getLast?.map isBlank ≠ some true)
    ⟨fun h => ⟨h.1, h.2.1, h.2.2.1, h.2.2.2.1, by simpa using h.2.2.2.2⟩,
      fun h => ⟨h.1, h.2, h.3, h.4, by simpa using h.5⟩⟩

/-- A script that is one line without blanks around it. -/
theorem parse_of_isTrimmed {line : List Char} (hn : '\n' ∉ line) (ht : IsTrimmed line)
    (hs : isSignificant line = true) :
    parse (String.ofList line) = (significantTokens line).mapError (Error.mk 1) := by
  rw [parse_line hn, lineTokens, Text.trim_eq_self ht, if_pos hs]

variable {body : List Char}

/-- The tokens of a script that is one tag with this body. -/
def tagScript (body : List Char) : Except Error (List Token) :=
  ((Tag.ofBody body).map fun tag => [.tag tag]).mapError (Error.mk 1)

theorem isTrimmed_lineTag (h : IsPortable body) : IsTrimmed ('@' :: body) :=
  Text.isTrimmed_cons (by decide) h.not_blank

theorem parse_lineTag (h : IsPortable body) :
    parse (String.ofList ('@' :: body)) = tagScript body := by
  have hn : '\n' ∉ '@' :: body := by simp [h.no_feed]
  have htokens : significantTokens ('@' :: body) = do return [.tag (← Tag.ofBody body)] := by
    rw [significantTokens]
    rintro more rfl
    exact h.head_at rfl
  rw [parse_of_isTrimmed hn (isTrimmed_lineTag h) (by simp [isSignificant]), htokens, tagScript]
  cases Tag.ofBody body <;> rfl

theorem parse_bracket (h : IsPortable body) :
    parse (String.ofList ('[' :: (body ++ [']']))) = tagScript body := by
  have hn : '\n' ∉ '[' :: (body ++ [']']) := by simp [h.no_feed]
  have ht : IsTrimmed ('[' :: (body ++ [']'])) := by
    refine Text.isTrimmed_cons (by decide) fun c hc => ?_
    rw [List.getLast?_concat] at hc
    cases hc
    decide
  rw [parse_of_isTrimmed hn ht (by simp [isSignificant]),
    significantTokens_eq_textLine (by decide) (fun hc => absurd hc (by decide)), textLine,
    textLineFrom_bracket h.no_bracket h.head_bracket, textLineFrom, tagScript]
  cases Tag.ofBody body <;> rfl

theorem parse_midTag (h : IsPortable body) :
    parse (String.ofList ('x' :: '@' :: body)) = (tagScript body).map (.text "x" :: ·) := by
  have hn : '\n' ∉ 'x' :: '@' :: body := by simp [h.no_feed]
  have ht : IsTrimmed ('x' :: '@' :: body) :=
    Text.isTrimmed_cons (by decide) (isTrimmed_lineTag h).2
  rw [parse_of_isTrimmed hn ht (by simp [isSignificant]),
    significantTokens_eq_textLine (by decide) (fun hc => absurd hc (by decide)), textLine,
    textLineFrom_plain (by decide), textLineFrom_at h.head_at, tagScript]
  cases Tag.ofBody body <;> rfl

/-! ## The meaning -/

/-- **The meaning of a tag body.**  With an odd number of quotes it is rejected, and the last piece
names the key.  Else it needs a first word without `=`, which is the name, and of the words after it the
last one with a key counts.  In brackets, behind `@` at the start of a line and behind `@` in the middle
of one it means the same. -/
theorem ofBody_meaning (body : List Char) :
    (∀ key, Tag.ofBody body = .error (.unterminatedQuote key) ↔ body.count '"' % 2 = 1 ∧
      key = String.ofList (keyPart ((bodyPieces body).getLast (bodyPieces_ne_nil body)))) ∧
    (Tag.ofBody body = .error .emptyTag ↔
      body.count '"' % 2 = 0 ∧ ∀ name ∈ (bodyWords body).head?, '=' ∈ name) ∧
    (∀ tag, Tag.ofBody body = .ok tag ↔ body.count '"' % 2 = 0 ∧
      ∃ name rest, bodyWords body = name :: rest ∧ '=' ∉ name ∧ tag.name = String.ofList name ∧
        ∀ key, tag.get? key = lastValue? rest key) ∧
    (IsPortable body →
      parse (String.ofList ('[' :: (body ++ [']']))) = parse (String.ofList ('@' :: body)) ∧
      parse (String.ofList ('x' :: '@' :: body)) =
        (parse (String.ofList ('@' :: body))).map (.text "x" :: ·)) := by
  refine ⟨fun key => ?_, ?_, fun tag => ?_, fun h => ?_⟩
  · rw [ofBody_eq]
    split
    · next hq => simp [hq, eq_comm]
    · next hq =>
      cases bodyWords body with
      | nil => simp [hq]
      | cons name rest => by_cases he : '=' ∈ name <;> simp [hq, he]
  · rw [ofBody_eq]
    split
    · next hq => simp [hq]
    · next hq =>
      have heven : body.count '"' % 2 = 0 := by omega
      cases bodyWords body with
      | nil => simp [heven]
      | cons name rest => by_cases he : '=' ∈ name <;> simp [heven, he]
  · rw [ofBody_eq]
    split
    · next hq => simp [hq]
    · next hq =>
      have heven : body.count '"' % 2 = 0 := by omega
      cases bodyWords body with
      | nil => simp
      | cons name rest =>
        by_cases he : '=' ∈ name
        · simp [he]
        · dsimp only
          rw [if_neg he, Except.ok.injEq, eq_comm, eq_ofWords_iff]
          simp [heven, he]
  · rw [parse_bracket h, parse_midTag h, parse_lineTag h]
    exact ⟨rfl, rfl⟩

/-- A body with a quoted blank, a key that is given twice and a word without `=`. -/
def storageBody : List Char := "bg storage=\"a b\" time=1 time=2 wait".toList

theorem ofBody_meaning_of_storage :
    IsPortable storageBody ∧
    parse (String.ofList ('[' :: (storageBody ++ [']']))) =
      parse (String.ofList ('@' :: storageBody)) ∧
    parse (String.ofList ('x' :: '@' :: storageBody)) =
      (parse (String.ofList ('@' :: storageBody))).map (.text "x" :: ·) := by
  have hportable : IsPortable storageBody := by decide
  exact ⟨hportable, (ofBody_meaning storageBody).2.2.2 hportable⟩

end StoryPlayer.Script
