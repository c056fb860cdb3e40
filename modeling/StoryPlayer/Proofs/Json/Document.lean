import StoryPlayer.Proofs.Json.Value

/-!
# Documents are read back

A document is written as a text of its value, both without blanks and on indented lines
(`Document.spells_compact`, `Document.spells_pretty`).  So the reader has its value again, and as
documents of one value are the same, a text is of one document only (`Document.compact_injective`,
`Document.pretty_injective`).
-/

namespace StoryPlayer.Json

namespace Document

mutual

/-- The value that a document spells. -/
def value : Document → Value
  | .text s => .text (some s)
  | .list items => .list (values items)
  | .object fields => .object (fieldValues fields)

def values : List Document → List Value
  | [] => []
  | d :: ds => value d :: values ds

def fieldValues : List (String × Document) → List (Option String × Value)
  | [] => []
  | (name, d) :: fs => (some name, value d) :: fieldValues fs

end

/-! ## Documents are written as texts of their values -/

open Value (itemLexemes fieldLexemes)

theorem spellsAll_mark {c : Char} {l : Lexeme} (h : punctuation? c = some l) {ls : List Lexeme}
    {cs : List Char} (hrest : SpellsAll ls cs) : SpellsAll (l :: ls) (c :: cs) :=
  .cons blanks_nil (.mark h) hrest

/-- The name of a field and what comes before its value. -/
theorem spellsAll_name (name : String) {blanks : List Char} (hb : Blanks blanks) {ls : List Lexeme}
    {cs : List Char} (hrest : SpellsAll ls cs) :
    SpellsAll (.text (some name) :: .colon :: ls) (quote name ++ ':' :: (blanks ++ cs)) :=
  .cons blanks_nil (spells_quote name) (spellsAll_mark rfl (hrest.blanks_append hb))

mutual

/-- A document without blanks is a text of its value, -/
theorem spells_compact : ∀ d : Document, d.value.Spells d.compactChars
  | .text s => .singleton (spells_quote s)
  | .list items =>
    spellsAll_mark rfl ((spellsAll_compactItems items).append (.singleton (.mark rfl)))
  | .object fields =>
    spellsAll_mark rfl ((spellsAll_compactFields fields).append (.singleton (.mark rfl)))

theorem spellsAll_compactItems : ∀ ds : List Document,
    SpellsAll (itemLexemes (values ds)) (compactItems ds)
  | [] => .nil blanks_nil
  | [d] => spells_compact d
  | d :: d' :: ds =>
    (spells_compact d).append (spellsAll_mark rfl (spellsAll_compactItems (d' :: ds)))

theorem spellsAll_compactFields : ∀ fs : List (String × Document),
    SpellsAll (fieldLexemes (fieldValues fs)) (compactFields fs)
  | [] => .nil blanks_nil
  | [(name, d)] => spellsAll_name name blanks_nil (spells_compact d)
  | (name, d) :: f :: fs =>
    spellsAll_name name blanks_nil
      ((spells_compact d).append (spellsAll_mark rfl (spellsAll_compactFields (f :: fs))))

end

theorem blanks_space : Blanks [' '] := by
  intro c hc
  rw [List.mem_singleton.mp hc]
  rfl

theorem blanks_newLine (level : Nat) : Blanks (newLine level) := by
  intro c hc
  rcases List.mem_cons.mp hc with rfl | hc
  · rfl
  · rw [List.eq_of_mem_replicate hc]
    rfl

/-- A bracket that closes what is indented stands on a line of its own. -/
theorem spellsAll_close {c : Char} {l : Lexeme} (h : punctuation? c = some l) (level : Nat) :
    SpellsAll [l] (newLine level ++ [c]) :=
  (SpellsAll.singleton (.mark h)).blanks_append (blanks_newLine level)

theorem prettyFields_cons_cons (level : Nat) (name : String) (d : Document) (f : String × Document)
    (fs : List (String × Document)) :
    prettyFields level ((name, d) :: f :: fs) =
      newLine level ++ (quote name ++
        ':' :: ' ' :: (prettyChars level d ++ ',' :: prettyFields level (f :: fs))) :=
  List.append_assoc _ _ _

mutual

/-- and so is one on indented lines. -/
theorem spells_pretty : ∀ (d : Document) (level : Nat), d.value.Spells (prettyChars level d)
  | .text s, _ => .singleton (spells_quote s)
  | .list [], _ => spellsAll_mark rfl (.singleton (.mark rfl))
  | .object [], _ => spellsAll_mark rfl (.singleton (.mark rfl))
  | .list (d :: ds), level => by
    rw [prettyChars, List.append_assoc]
    exact spellsAll_mark rfl
      ((spellsAll_prettyItems (d :: ds) (level + 1)).append (spellsAll_close rfl level))
  | .object (f :: fs), level => by
    rw [prettyChars, List.append_assoc]
    exact spellsAll_mark rfl
      ((spellsAll_prettyFields (f :: fs) (level + 1)).append (spellsAll_close rfl level))

theorem spellsAll_prettyItems : ∀ (ds : List Document) (level : Nat),
    SpellsAll (itemLexemes (values ds)) (prettyItems level ds)
  | [], _ => .nil blanks_nil
  | [d], level => (spells_pretty d level).blanks_append (blanks_newLine level)
  | d :: d' :: ds, level =>
    ((spells_pretty d level).blanks_append (blanks_newLine level)).append
      (spellsAll_mark rfl (spellsAll_prettyItems (d' :: ds) level))

theorem spellsAll_prettyFields : ∀ (fs : List (String × Document)) (level : Nat),
    SpellsAll (fieldLexemes (fieldValues fs)) (prettyFields level fs)
  | [], _ => .nil blanks_nil
  | [(name, d)], level => by
    rw [prettyFields, List.append_assoc]
    exact (spellsAll_name name blanks_space (spells_pretty d level)).blanks_append
      (blanks_newLine level)
  | (name, d) :: f :: fs, level => by
    rw [prettyFields_cons_cons]
    exact (spellsAll_name name blanks_space
      ((spells_pretty d level).append
        (spellsAll_mark rfl (spellsAll_prettyFields (f :: fs) level)))).blanks_append
      (blanks_newLine level)

end

/-! ## Reading them back -/

/-- **The value of a document is read from its text without blanks,** -/
theorem parse?_compact (d : Document) : Value.parse? d.compact = some d.value :=
  Value.parse?_of_spells (spells_compact d)

/-- **and from the one on indented lines.** -/
theorem parse?_pretty (d : Document) : Value.parse? d.pretty = some d.value :=
  Value.parse?_of_spells (spells_pretty d 0)

mutual

/-- Documents of one value are the same. -/
theorem value_injective : ∀ {d d' : Document}, d.value = d'.value → d = d'
  | .text s, .text s', h => by
    injection h with h
    injection h with h
    rw [h]
  | .list items, .list items', h => by
    injection h with h
    rw [values_injective h]
  | .object fields, .object fields', h => by
    injection h with h
    rw [fieldValues_injective h]

theorem values_injective : ∀ {ds ds' : List Document}, values ds = values ds' → ds = ds'
  | [], [], _ => rfl
  | d :: ds, d' :: ds', h => by
    injection h with hd hds
    rw [value_injective hd, values_injective hds]

theorem fieldValues_injective : ∀ {fs fs' : List (String × Document)},
    fieldValues fs = fieldValues fs' → fs = fs'
  | [], [], _ => rfl
  | (name, d) :: fs, (name', d') :: fs', h => by
    injection h with hf hfs
    injection hf with hname hd
    injection hname with hname
    rw [hname, value_injective hd, fieldValues_injective hfs]

end

/-- **A text without blanks is of one document only,** -/
theorem compact_injective : Function.Injective compact := by
  intro d d' h
  have hparse := congrArg Value.parse? h
  rw [parse?_compact, parse?_compact] at hparse
  exact value_injective (Option.some.inj hparse)

/-- **and so is one on indented lines.** -/
theorem pretty_injective : Function.Injective pretty := by
  intro d d' h
  have hparse := congrArg Value.parse? h
  rw [parse?_pretty, parse?_pretty] at hparse
  exact value_injective (Option.some.inj hparse)

end Document

end StoryPlayer.Json
