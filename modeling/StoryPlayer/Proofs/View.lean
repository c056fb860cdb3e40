import StoryPlayer.Proofs.Json.Document
import StoryPlayer.View

/-!
# Views survive JSON

A view is written as an object with two fields, and it is read back from that text.  The reader asks
for less than this text: it takes the fields in any order and among any others, which it skips, and
any text that spells such an object (`View.survivesJson`).
-/

namespace StoryPlayer

namespace Json

/-- The list of these strings. -/
def Value.ofTexts (texts : List String) : Value := .list (texts.map fun s => .text (some s))

/-- The object with these fields. -/
def Value.ofFields (fields : List (String × Value)) : Value :=
  .object (fields.map fun (name, v) => (some name, v))

theorem Value.texts?_ofTexts (texts : List String) : (ofTexts texts).texts? = some texts := by
  show (texts.map fun s => text (some s)).mapM text? = some texts
  induction texts with
  | nil => rfl
  | cons s texts ih =>
    rw [List.map_cons, List.mapM_cons, ih]
    rfl

theorem Value.fields?_ofFields (fields : List (String × Value)) :
    (ofFields fields).fields? = some fields := by
  show (fields.map fun f => (some f.1, f.2)).mapM (fun f => Option.map (·, f.2) f.1) = some fields
  induction fields with
  | nil => rfl
  | cons f fields ih =>
    rw [List.map_cons, List.mapM_cons, ih]
    rfl

/-- The one field of a name is found in any order of the fields. -/
theorem field?_of_perm {fields : List (String × Value)} (front back : List (String × Value))
    {name : String} {v : Value} (hperm : fields.Perm (front ++ (name, v) :: back))
    (hfront : ∀ f ∈ front, f.1 ≠ name) (hback : ∀ f ∈ back, f.1 ≠ name) :
    field? fields name = some (some v) := by
  have hnone {fs : List (String × Value)} (hfs : ∀ f ∈ fs, f.1 ≠ name) :
      fs.filter (fun f => f.1 = name) = [] :=
    List.filter_eq_nil_iff.mpr fun f hf heq => hfs f hf (of_decide_eq_true heq)
  have hfilter := hperm.filter fun f => f.1 = name
  rw [List.filter_append, hnone hfront, List.filter_cons, if_pos (decide_eq_true rfl), hnone hback]
    at hfilter
  have hone : fields.filter (fun (n, _) => n = name) = [(name, v)] := List.perm_singleton.mp hfilter
  rw [field?, hone]

theorem Document.values_text (texts : List String) :
    values (texts.map .text) = texts.map fun s => .text (some s) := by
  induction texts with
  | nil => rfl
  | cons s texts ih =>
    rw [List.map_cons, List.map_cons, values, ih]
    rfl

end Json

namespace View

open Json (Value Document field? field?_of_perm)

/-- The fields that a view is written with. -/
def fields (v : View) : List (String × Value) :=
  [("text", .ofTexts v.text), ("scene", .ofTexts v.scene)]

theorem value_toDocument (v : View) : v.toDocument.value = .ofFields v.fields := by
  show Value.object [(some "text", .list _), (some "scene", .list _)] = _
  rw [Document.values_text, Document.values_text]
  rfl

/-- A view is read from its two fields, in any order and among any others. -/
theorem ofValue?_ofFields {v : View} {others fields : List (String × Value)}
    (hothers : ∀ f ∈ others, f.1 ≠ "text" ∧ f.1 ≠ "scene")
    (hperm : fields.Perm (v.fields ++ others)) : ofValue? (.ofFields fields) = some v := by
  have htext : field? fields "text" = some (some (.ofTexts v.text)) := by
    refine field?_of_perm [] _ hperm nofun ?_
    intro f hf
    rcases List.mem_cons.mp hf with rfl | hf
    · exact ne_of_beq_false rfl
    · exact (hothers f hf).1
  have hscene : field? fields "scene" = some (some (.ofTexts v.scene)) := by
    refine field?_of_perm [("text", .ofTexts v.text)] _ hperm ?_ fun f hf => (hothers f hf).2
    intro f hf
    rw [List.mem_singleton.mp hf]
    exact ne_of_beq_false rfl
  show (do
    let fields ← (Value.ofFields fields).fields?
    let text ← (← field? fields "text")
    let scene ← (← field? fields "scene")
    return (⟨← text.texts?, ← scene.texts?⟩ : View)) = some v
  simp only [Value.fields?_ofFields, Option.bind_eq_bind, Option.bind_some, htext, hscene,
    Value.texts?_ofTexts]
  rfl

/-- What becomes of a view that is written and read again. -/
structure SurvivesJson (v : View) : Prop where
  /-- It is read from its own text, -/
  compact : ofJson? v.toDocument.compact = some v
  /-- which spells the object with its two fields, -/
  spells : (Value.ofFields v.fields).Spells v.toDocument.compactChars
  /-- and from any text, with any blanks, of an object with these fields and any others, in any
  order. -/
  text : ∀ (others fields : List (String × Value)) (cs : List Char),
    (∀ f ∈ others, f.1 ≠ "text" ∧ f.1 ≠ "scene") → fields.Perm (v.fields ++ others) →
    (Value.ofFields fields).Spells cs → ofJson? (String.ofList cs) = some v

/-- **Views survive JSON.** -/
theorem survivesJson (v : View) : v.SurvivesJson := by
  have hspells : (Value.ofFields v.fields).Spells v.toDocument.compactChars := by
    rw [← value_toDocument]
    exact Document.spells_compact v.toDocument
  have htext (others fields : List (String × Value)) (cs : List Char)
      (hothers : ∀ f ∈ others, f.1 ≠ "text" ∧ f.1 ≠ "scene")
      (hperm : fields.Perm (v.fields ++ others)) (hcs : (Value.ofFields fields).Spells cs) :
      ofJson? (String.ofList cs) = some v := by
    rw [ofJson?, Value.parse?_of_spells hcs]
    exact ofValue?_ofFields hothers hperm
  refine ⟨?_, hspells, htext⟩
  refine htext [] v.fields v.toDocument.compactChars nofun ?_ hspells
  rw [List.append_nil]

example :
    ofJson? "\x7b \"other\": [1e5, \x7b\"text\":null\x7d], \"scene\": [\"bg\"],\t\"text\":[\"\\u0041\"]\x7d" =
      some ⟨["A"], ["bg"]⟩ := by
  decide +kernel

end View

end StoryPlayer
