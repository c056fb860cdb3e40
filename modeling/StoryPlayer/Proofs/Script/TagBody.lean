import StoryPlayer.Proofs.Text.Lines
import StoryPlayer.Script.TagBody

/-!
# Tag bodies, read and written

The texts of a tag are its name, its keys and its values.  A tag that was read holds in them only
characters of its body, without the quotes, and those of `true` (`mem_texts_ofBody`); its name is not
empty, and neither its name nor a key holds `=`.  These are all the tags there are: `Tag.body` writes
a tag with every word in quotes, and `ofBody_body` reads it back.
-/

namespace StoryPlayer

/-- A computation succeeds when both its parts do. -/
theorem bind_eq_ok_iff {ε α β : Type} {x : Except ε α} {f : α → Except ε β} {b : β} :
    x >>= f = .ok b ↔ ∃ a, x = .ok a ∧ f a = .ok b := by
  cases x with
  | error e => simp [bind, Except.bind]
  | ok a => simp [bind, Except.bind]

/-- Another wording of the errors leaves what succeeds alone. -/
theorem mapError_eq_ok_iff {ε ε' α : Type} {x : Except ε α} {f : ε → ε'} {a : α} :
    x.mapError f = .ok a ↔ x = .ok a := by
  cases x with
  | error e => simp [Except.mapError]
  | ok a => simp [Except.mapError]

namespace Script

open Text (isBlank)

/-! ## Words -/

/-- Words are not empty and hold what their body holds, without the quotes. -/
theorem mem_of_wordsFrom {quoted : Bool} {word body : List Char} {ws : List (List Char)}
    (h : wordsFrom quoted word body = .ok ws) :
    ∀ w ∈ ws, w ≠ [] ∧ ∀ c ∈ w, c ∈ word ∨ (c ∈ body ∧ c ≠ '"') := by
  induction quoted, word, body using wordsFrom.induct generalizing ws with
  | case1 word => simp [wordsFrom] at h
  | case2 quoted word hq =>
    intro w hw
    rw [wordsFrom, if_neg hq, Except.ok.injEq] at h
    subst h
    split at hw
    · cases hw
    · next hne =>
      rw [List.mem_singleton] at hw
      subst hw
      exact ⟨by simpa using hne, fun c hc => Or.inl (List.mem_reverse.mp hc)⟩
  | case3 quoted word rest ih =>
    intro w hw
    rw [wordsFrom, if_pos rfl] at h
    obtain ⟨hne, hc⟩ := ih h w hw
    exact ⟨hne, fun c h => (hc c h).imp_right fun h => ⟨List.mem_cons_of_mem _ h.1, h.2⟩⟩
  | case4 quoted word c rest hc hb ih =>
    intro w hw
    rw [wordsFrom, if_neg hc, if_pos hb, bind_eq_ok_iff] at h
    obtain ⟨later, hlater, heq⟩ := h
    have hws : ws = if word.isEmpty then later else word.reverse :: later :=
      (Except.ok.inj heq).symm
    have hmem : w ∈ later ∨ (word ≠ [] ∧ w = word.reverse) := by
      rw [hws] at hw
      split at hw
      · exact Or.inl hw
      · next hne =>
        rcases List.mem_cons.mp hw with rfl | hw
        · exact Or.inr ⟨by simpa using hne, rfl⟩
        · exact Or.inl hw
    rcases hmem with hw | ⟨hne, rfl⟩
    · obtain ⟨hne, hcs⟩ := ih hlater w hw
      refine ⟨hne, fun d hd => Or.inr ?_⟩
      rcases hcs d hd with h | h
      · cases h
      · exact ⟨List.mem_cons_of_mem _ h.1, h.2⟩
    · exact ⟨by simpa using hne, fun d hd => Or.inl (List.mem_reverse.mp hd)⟩
  | case5 quoted word c rest hc hb ih =>
    intro w hw
    rw [wordsFrom, if_neg hc, if_neg hb] at h
    obtain ⟨hne, hcs⟩ := ih h w hw
    refine ⟨hne, fun d hd => ?_⟩
    rcases hcs d hd with h | h
    · rcases List.mem_cons.mp h with rfl | h
      · exact Or.inr ⟨List.mem_cons_self, hc⟩
      · exact Or.inl h
    · exact Or.inr ⟨List.mem_cons_of_mem _ h.1, h.2⟩

theorem mem_of_words {body : List Char} {ws : List (List Char)} (h : words body = .ok ws) :
    ∀ w ∈ ws, w ≠ [] ∧ ∀ c ∈ w, c ∈ body ∧ c ≠ '"' := by
  intro w hw
  obtain ⟨hne, hc⟩ := mem_of_wordsFrom h w hw
  refine ⟨hne, fun c hmem => ?_⟩
  rcases hc c hmem with h | h
  · cases h
  · exact h

/-! ## Keys and values -/

theorem not_mem_keyPart (word : List Char) : '=' ∉ keyPart word :=
  Text.not_mem_takeWhile_ne '=' word

/-- What a word gives: its characters, and those of `true`. -/
theorem mem_keyValue {word : List Char} {c : Char}
    (h : c ∈ (keyValue word).1.toList ∨ c ∈ (keyValue word).2.toList) :
    c ∈ word ∨ c ∈ "true".toList := by
  unfold keyValue at h
  split at h
  · simpa using h
  · next hd =>
    rw [String.toList_ofList, String.toList_ofList] at h
    rcases h with h | h
    · exact Or.inl (List.takeWhile_subset _ h)
    · exact Or.inl (List.dropWhile_subset _ (hd ▸ List.mem_cons_of_mem _ h))

theorem not_mem_key (word : List Char) : '=' ∉ (keyValue word).1.toList := by
  unfold keyValue
  split
  · next hd =>
    rw [String.toList_ofList]
    exact Text.not_mem_of_dropWhile_ne_eq_nil hd
  · rw [String.toList_ofList]
    exact not_mem_keyPart word

theorem keyValue_append {key : List Char} (h : '=' ∉ key) (value : List Char) :
    keyValue (key ++ '=' :: value) = (String.ofList key, String.ofList value) := by
  rw [keyValue, keyPart, Text.takeWhile_ne_append h, Text.dropWhile_ne_append h]

/-! ## Tags of words -/

/-- The texts of a tag: its name, its keys and its values. -/
def Tag.texts (t : Tag) : List String :=
  t.name :: t.attributes.entries.flatMap fun e => [e.1, e.2]

theorem Tag.mem_texts {t : Tag} {s : String} :
    s ∈ t.texts ↔ s = t.name ∨ ∃ e ∈ t.attributes.entries, s = e.1 ∨ s = e.2 := by
  simp [texts]

/-- A tag with one more attribute for each word. -/
def Tag.setAll (t : Tag) (es : List (String × String)) : Tag :=
  es.foldl (fun tag e => tag.set e.1 e.2) t

theorem Tag.ofWords_eq (name : List Char) (ws : List (List Char)) :
    Tag.ofWords name ws = (Tag.named (String.ofList name)).setAll (ws.map keyValue) := by
  rw [ofWords, setAll, List.foldl_map]

@[simp] theorem Tag.setAll_name (t : Tag) (es : List (String × String)) :
    (t.setAll es).name = t.name := by
  induction es generalizing t with
  | nil => rfl
  | cons e es ih => exact ih (t.set e.1 e.2)

theorem Tag.setAll_entries (t : Tag) (es : List (String × String)) :
    (t.setAll es).attributes.entries =
      es.foldl (fun entries e => Attributes.insertEntry e.1 e.2 entries) t.attributes.entries := by
  induction es generalizing t with
  | nil => rfl
  | cons e es ih => exact ih (t.set e.1 e.2)

theorem Tag.mem_setAll_entries {t : Tag} {es : List (String × String)} {e : String × String}
    (h : e ∈ (t.setAll es).attributes.entries) : e ∈ es ∨ e ∈ t.attributes.entries := by
  induction es generalizing t with
  | nil => exact Or.inr h
  | cons a es ih =>
    rcases ih (t := t.set a.1 a.2) h with h | h
    · exact Or.inl (List.mem_cons_of_mem a h)
    · rcases Attributes.mem_insertEntry h with rfl | h
      · exact Or.inl List.mem_cons_self
      · exact Or.inr h

theorem ofBody_eq_ok {body : List Char} {t : Tag} (h : Tag.ofBody body = .ok t) :
    ∃ name rest, words body = .ok (name :: rest) ∧ '=' ∉ name ∧ t = Tag.ofWords name rest := by
  rw [Tag.ofBody, bind_eq_ok_iff] at h
  obtain ⟨ws, hws, h⟩ := h
  cases ws with
  | nil => cases h
  | cons name rest =>
    change (if name.contains '=' then _ else _) = _ at h
    split at h
    · cases h
    · next he => exact ⟨name, rest, hws, by simpa using he, (Except.ok.inj h).symm⟩

theorem entry_ofBody {body : List Char} {t : Tag} (h : Tag.ofBody body = .ok t)
    {e : String × String} (he : e ∈ t.attributes.entries) :
    ∃ w, (∀ c ∈ w, c ∈ body ∧ c ≠ '"') ∧ e = keyValue w := by
  obtain ⟨name, rest, hws, -, rfl⟩ := ofBody_eq_ok h
  rw [Tag.ofWords_eq] at he
  rcases Tag.mem_setAll_entries he with he | he
  · obtain ⟨w, hw, rfl⟩ := List.mem_map.mp he
    exact ⟨w, (mem_of_words hws w (List.mem_cons_of_mem name hw)).2, rfl⟩
  · cases he

theorem name_ofBody {body : List Char} {t : Tag} (h : Tag.ofBody body = .ok t) :
    t.name ≠ "" ∧ '=' ∉ t.name.toList ∧ ∀ c ∈ t.name.toList, c ∈ body ∧ c ≠ '"' := by
  obtain ⟨name, rest, hws, heq, rfl⟩ := ofBody_eq_ok h
  obtain ⟨hne, hc⟩ := mem_of_words hws name List.mem_cons_self
  have hname : (Tag.ofWords name rest).name = String.ofList name := by
    rw [Tag.ofWords_eq, Tag.setAll_name]
    rfl
  rw [hname, String.toList_ofList]
  exact ⟨fun he => hne (by simpa using congrArg String.toList he), heq, hc⟩

theorem key_ofBody {body : List Char} {t : Tag} (h : Tag.ofBody body = .ok t)
    {e : String × String} (he : e ∈ t.attributes.entries) : '=' ∉ e.1.toList := by
  obtain ⟨w, -, rfl⟩ := entry_ofBody h he
  exact not_mem_key w

/-- **A tag holds what its body holds**, quotes left out, and `true`. -/
theorem mem_texts_ofBody {body : List Char} {t : Tag} (h : Tag.ofBody body = .ok t) {s : String}
    (hs : s ∈ t.texts) {c : Char} (hc : c ∈ s.toList) :
    (c ∈ body ∧ c ≠ '"') ∨ c ∈ "true".toList := by
  rcases Tag.mem_texts.mp hs with rfl | ⟨e, he, hs⟩
  · exact Or.inl ((name_ofBody h).2.2 c hc)
  · obtain ⟨w, hw, rfl⟩ := entry_ofBody h he
    have hkv : c ∈ (keyValue w).1.toList ∨ c ∈ (keyValue w).2.toList := by
      rcases hs with rfl | rfl
      · exact Or.inl hc
      · exact Or.inr hc
    exact (mem_keyValue hkv).imp_left (hw c)

/-! ## Writing bodies -/

/-- A word in quotes. -/
def quote (word : List Char) : List Char := '"' :: (word ++ ['"'])

/-- The word that gives a key and a value. -/
def entryWord (e : String × String) : List Char := e.1.toList ++ '=' :: e.2.toList

/-- A tag as a body: its name and then its attributes, each word in quotes. -/
def Tag.body (t : Tag) : List Char :=
  quote t.name.toList ++ t.attributes.entries.flatMap fun e => ' ' :: quote (entryWord e)

theorem wordsFrom_quoted {w : List Char} (h : '"' ∉ w) (acc rest : List Char) :
    wordsFrom true acc (w ++ '"' :: rest) = wordsFrom false (w.reverse ++ acc) rest := by
  induction w generalizing acc with
  | nil => rw [List.nil_append, wordsFrom, if_pos rfl]; rfl
  | cons c w ih =>
    rw [List.mem_cons, not_or] at h
    rw [List.cons_append, wordsFrom, if_neg (Ne.symm h.1), if_neg (by simp), ih h.2,
      List.reverse_cons, List.append_assoc]
    rfl

theorem wordsFrom_quote {w : List Char} (h : '"' ∉ w) (acc rest : List Char) :
    wordsFrom false acc (quote w ++ rest) = wordsFrom false (w.reverse ++ acc) rest := by
  rw [quote, List.cons_append, wordsFrom, if_pos rfl, List.append_assoc, List.singleton_append]
  exact wordsFrom_quoted h acc rest

/-- Words in quotes, with a space before each, are read one by one. -/
theorem wordsFrom_flatMap_quote {acc : List Char} (hacc : acc ≠ []) {ws : List (List Char)}
    (h : ∀ w ∈ ws, w ≠ [] ∧ '"' ∉ w) :
    wordsFrom false acc (ws.flatMap fun w => ' ' :: quote w) = .ok (acc.reverse :: ws) := by
  induction ws generalizing acc with
  | nil => rw [List.flatMap_nil, wordsFrom, if_neg (by simp), if_neg (by simpa using hacc)]
  | cons w ws ih =>
    obtain ⟨hne, hq⟩ := h w List.mem_cons_self
    have hrest : wordsFrom false [] (quote w ++ ws.flatMap fun w => ' ' :: quote w) =
        .ok (w :: ws) := by
      rw [wordsFrom_quote hq, List.append_nil,
        ih (by simpa using hne) fun v hv => h v (List.mem_cons_of_mem w hv), List.reverse_reverse]
    rw [List.flatMap_cons, List.cons_append, wordsFrom, if_neg (by decide), if_pos (by decide),
      hrest]
    change Except.ok (if acc.isEmpty then w :: ws else acc.reverse :: w :: ws) = _
    rw [if_neg (by simpa using hacc)]

/-- What a tag must be like to be written: it has a name, `=` stands in values alone, and quotes and
line feeds nowhere. -/
structure Tag.IsExpressible (t : Tag) : Prop where
  name_ne : t.name ≠ ""
  name_plain : '=' ∉ t.name.toList
  key_plain : ∀ e ∈ t.attributes.entries, '=' ∉ e.1.toList
  texts_plain : ∀ s ∈ t.texts, '"' ∉ s.toList ∧ '\n' ∉ s.toList

theorem isExpressible_ofBody {body : List Char} {t : Tag} (h : Tag.ofBody body = .ok t)
    (hb : '\n' ∉ body) : t.IsExpressible where
  name_ne := (name_ofBody h).1
  name_plain := (name_ofBody h).2.1
  key_plain _ he := key_ofBody h he
  texts_plain s hs := by
    refine ⟨fun hc => ?_, fun hc => ?_⟩
    · rcases mem_texts_ofBody h hs hc with hc | hc
      · exact hc.2 rfl
      · exact absurd hc (by decide)
    · rcases mem_texts_ofBody h hs hc with hc | hc
      · exact hb hc.1
      · exact absurd hc (by decide)

theorem words_body {t : Tag} (h : t.IsExpressible) :
    words t.body = .ok (t.name.toList :: t.attributes.entries.map entryWord) := by
  have hname : '"' ∉ t.name.toList :=
    (h.texts_plain t.name (Tag.mem_texts.mpr (Or.inl rfl))).1
  have hwords : ∀ w ∈ t.attributes.entries.map entryWord, w ≠ [] ∧ '"' ∉ w := by
    intro w hw
    obtain ⟨e, he, rfl⟩ := List.mem_map.mp hw
    have hk := h.texts_plain e.1 (Tag.mem_texts.mpr (Or.inr ⟨e, he, Or.inl rfl⟩))
    have hv := h.texts_plain e.2 (Tag.mem_texts.mpr (Or.inr ⟨e, he, Or.inr rfl⟩))
    refine ⟨by simp [entryWord], ?_⟩
    simp [entryWord, hk.1, hv.1]
  rw [words, Tag.body, wordsFrom_quote hname, List.append_nil,
    ← List.flatMap_map entryWord fun w => ' ' :: quote w, wordsFrom_flatMap_quote (by simpa using h.name_ne) hwords, List.reverse_reverse]

/-- A key above all others is put at the end. -/
theorem insertEntry_of_lt {key value : String} {es : List (String × String)}
    (h : ∀ e ∈ es, e.1 < key) : Attributes.insertEntry key value es = es ++ [(key, value)] := by
  induction es with
  | nil => rfl
  | cons e es ih =>
    have he : e.1 < key := h e List.mem_cons_self
    rw [Attributes.insertEntry, if_neg (String.lt_asymm he), if_neg (String.ne_of_lt he).symm,
      ih fun a ha => h a (List.mem_cons_of_mem e ha), List.cons_append]

theorem foldl_insertEntry {es done : List (String × String)}
    (h : (done ++ es).Pairwise fun a b => a.1 < b.1) :
    es.foldl (fun entries e => Attributes.insertEntry e.1 e.2 entries) done = done ++ es := by
  induction es generalizing done with
  | nil => rw [List.foldl_nil, List.append_nil]
  | cons e es ih =>
    have hlt : ∀ a ∈ done, a.1 < e.1 := fun a ha =>
      (List.pairwise_append.mp h).2.2 a ha e List.mem_cons_self
    rw [List.append_cons] at h
    rw [List.foldl_cons, insertEntry_of_lt hlt, ih h, ← List.append_cons]

theorem setAll_entries_eq (t : Tag) : (Tag.named t.name).setAll t.attributes.entries = t := by
  have hname : ((Tag.named t.name).setAll t.attributes.entries).name = t.name := Tag.setAll_name _ _
  have hentries : ((Tag.named t.name).setAll t.attributes.entries).attributes.entries =
      t.attributes.entries := by
    rw [Tag.setAll_entries]
    exact foldl_insertEntry t.attributes.sorted
  obtain ⟨name, entries, sorted⟩ := t
  generalize (Tag.named name).setAll entries = u at hname hentries
  obtain ⟨uname, uentries, usorted⟩ := u
  cases hname
  cases hentries
  rfl

/-- **A tag that can be written is read back.** -/
theorem ofBody_body {t : Tag} (h : t.IsExpressible) : Tag.ofBody t.body = .ok t := by
  have hkv : (t.attributes.entries.map entryWord).map keyValue = t.attributes.entries := by
    rw [List.map_map]
    refine (List.map_congr_left fun e he => ?_).trans (List.map_id _)
    rw [Function.comp_apply, entryWord, keyValue_append (h.key_plain e he), String.ofList_toList,
      String.ofList_toList, id_eq]
  have hname : ¬t.name.toList.contains '=' := by simpa using h.name_plain
  have hof : Tag.ofWords t.name.toList (t.attributes.entries.map entryWord) = t := by
    rw [Tag.ofWords_eq, hkv, String.ofList_toList, setAll_entries_eq]
  rw [Tag.ofBody, words_body h]
  change (if t.name.toList.contains '=' then _ else _) = _
  rw [if_neg hname, hof]
  rfl

end Script

end StoryPlayer
