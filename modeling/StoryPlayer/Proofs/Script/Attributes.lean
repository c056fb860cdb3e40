import Mathlib.Data.List.Sort
import StoryPlayer.Script.Attributes

/-!
# Looking attributes up

A value that is put under a key is what is found there from then on, and what is found under the other
keys stays (`get?_insert`).  Attributes are what is found in them (`ext_get?`).
-/

namespace StoryPlayer.Script.Attributes

theorem find?_insertEntry (key value k : String) (es : List (String × String)) :
    ((insertEntry key value es).find? fun e => e.1 = k) =
      if key = k then some (key, value) else es.find? fun e => e.1 = k := by
  induction es with
  | nil => by_cases hk : key = k <;> simp [insertEntry, hk]
  | cons e es ih =>
    obtain ⟨k', v⟩ := e
    rw [insertEntry]
    split
    · by_cases hk : key = k <;> simp [hk]
    · split
      · next he =>
        by_cases hk : key = k
        · simp [hk]
        · have hk' : k' ≠ k := fun h => hk (he.trans h)
          simp [hk, hk']
      · next hne =>
        by_cases hk' : k' = k
        · have hk : key ≠ k := fun h => hne (h.trans hk'.symm)
          simp [hk', hk]
        · simp [hk', ih]

/-- **The latest value under a key is the one that is found.** -/
theorem get?_insert (a : Attributes) (key value k : String) :
    (a.insert key value).get? k = if key = k then some value else a.get? k := by
  rw [get?, insert, find?_insertEntry]
  split <;> rfl

theorem get?_eq_some_iff {a : Attributes} {k v : String} :
    a.get? k = some v ↔ (k, v) ∈ a.entries := by
  obtain ⟨es, sorted⟩ := a
  rw [get?]
  induction es with
  | nil => simp
  | cons e es ih =>
    obtain ⟨k', v'⟩ := e
    obtain ⟨hlt, hes⟩ := List.pairwise_cons.mp sorted
    by_cases hk : k' = k
    · have hnot : (k, v) ∉ es := fun hm => String.lt_irrefl k (hk ▸ hlt _ hm)
      simp [hk, hnot, eq_comm]
    · simpa [hk, Ne.symm hk] using ih hes

/-- **Attributes in which the same is found are the same.** -/
theorem ext_get? {a b : Attributes} (h : ∀ k, a.get? k = b.get? k) : a = b := by
  have hmem (e : String × String) : e ∈ a.entries ↔ e ∈ b.entries := by
    rw [← get?_eq_some_iff, ← get?_eq_some_iff, h]
  have : Std.Irrefl fun e e' : String × String => e.1 < e'.1 := ⟨fun e => String.lt_irrefl e.1⟩
  have : Std.Antisymm fun e e' : String × String => e.1 < e'.1 :=
    ⟨fun _ _ hlt hgt => absurd hgt (String.lt_asymm hlt)⟩
  obtain ⟨es, sorted⟩ := a
  obtain ⟨es', sorted'⟩ := b
  obtain rfl := sorted.eq_of_mem_iff sorted' hmem
  rfl

end StoryPlayer.Script.Attributes
