import StoryPlayer.Proofs.Json.Document
import StoryPlayer.Script.Token

/-!
# A listing is of one script

The listing of a script names every token as an object.  The kind comes first in it, so labels, tags
and texts are told apart by the text of that field, and a tag with attributes from one without by the
number of fields (`Token.toDocument_injective`).  What the texts hold is left to the writing of
documents: a text of a document is of that document only, whatever its strings are.
-/

namespace StoryPlayer.Script

open Json (Document)

/-- Attributes are their entries. -/
theorem Attributes.toDocument_injective : Function.Injective Attributes.toDocument := by
  intro a b h
  have hpair : Function.Injective
      fun e : String × String => ((e.1, .text e.2) : String × Document) := by
    rintro ⟨key, value⟩ ⟨key', value'⟩ he
    simp only [Prod.mk.injEq, Document.text.injEq] at he
    obtain ⟨rfl, rfl⟩ := he
    rfl
  obtain ⟨entries, sorted⟩ := a
  obtain ⟨entries', sorted'⟩ := b
  injection h with h
  obtain rfl : entries = entries' := hpair.list_map h
  rfl

/-- Attributes without entries are left out, and there is one such. -/
theorem Attributes.eq_empty_of_isEmpty {a : Attributes} (h : a.isEmpty = true) : a = .empty := by
  obtain ⟨entries, sorted⟩ := a
  obtain rfl : entries = [] := List.isEmpty_iff.mp h
  rfl

theorem Token.toDocument_tag (t : Tag) :
    (Token.tag t).toDocument = .object (("type", .text "tag") :: ("name", .text t.name) ::
      if t.attributes.isEmpty then [] else [("attributes", t.attributes.toDocument)]) := rfl

/-- Tags of one document are the same. -/
theorem Token.tag_injective {t t' : Tag} (h : (Token.tag t).toDocument = (Token.tag t').toDocument) :
    t = t' := by
  obtain ⟨name, attributes⟩ := t
  obtain ⟨name', attributes'⟩ := t'
  rw [toDocument_tag, toDocument_tag] at h
  simp only [Document.object.injEq, List.cons.injEq, Prod.mk.injEq, Document.text.injEq,
    true_and] at h
  obtain ⟨rfl, h⟩ := h
  cases he : attributes.isEmpty with
  | true =>
    cases he' : attributes'.isEmpty with
    | true =>
      rw [Attributes.eq_empty_of_isEmpty he, Attributes.eq_empty_of_isEmpty he']
    | false =>
      rw [he, he'] at h
      cases h
  | false =>
    cases he' : attributes'.isEmpty with
    | true =>
      rw [he, he'] at h
      cases h
    | false =>
      simp only [he, he', Bool.false_eq_true, if_false, List.cons.injEq, Prod.mk.injEq, true_and,
        and_true] at h
      rw [Attributes.toDocument_injective h]

/-- **A token is told by its document.** -/
theorem Token.toDocument_injective : Function.Injective Token.toDocument := by
  -- Tokens of different kinds differ in the text of the first field.
  intro a b h
  cases a with
  | label l =>
    cases b with
    | label l' =>
      simp only [toDocument, Document.object.injEq, List.cons.injEq, Prod.mk.injEq,
        Document.text.injEq, true_and, and_true] at h
      obtain ⟨hlabel, hheading⟩ := h
      obtain ⟨label, heading⟩ := l
      obtain ⟨label', heading'⟩ := l'
      cases hlabel
      cases hheading
      rfl
    | tag t => simp [toDocument] at h
    | text s => simp [toDocument] at h
  | tag t =>
    cases b with
    | label l => simp [toDocument] at h
    | tag t' => rw [tag_injective h]
    | text s => simp [toDocument] at h
  | text s =>
    cases b with
    | label l => simp [toDocument] at h
    | tag t => simp [toDocument] at h
    | text s' =>
      simp only [toDocument, Document.object.injEq, List.cons.injEq, Prod.mk.injEq,
        Document.text.injEq, true_and, and_true] at h
      rw [h]

/-- Lists of tokens are told by their documents. -/
theorem Token.listDocument_injective : Function.Injective Token.listDocument := by
  intro a b h
  injection h with h
  exact toDocument_injective.list_map h

/-- **A listing is of one script only:** no two lists of tokens have the same text without blanks, nor
the same text on indented lines. -/
theorem Token.listing_injective :
    Function.Injective (fun ts => (Token.listDocument ts).compact) ∧
      Function.Injective (fun ts => (Token.listDocument ts).pretty) := by
  constructor
  · intro a b h
    exact listDocument_injective (Document.compact_injective h)
  · intro a b h
    exact listDocument_injective (Document.pretty_injective h)

end StoryPlayer.Script
