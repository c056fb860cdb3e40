import Mathlib
import StoryPlayer.Proofs.Engine.Beginning
import StoryPlayer.Proofs.Script.Mark

/-!
# Scripts from disk and over the network

A file is read as the text that its bytes are.  A download is read as that text without the byte order
mark that may stand at its start (`bodyText_of_decode`).  So the same bytes are loaded as the same
script unless they begin with a mark, and then they are not, except that both may have the same fault
(`loads_agree_iff`).
-/

namespace StoryPlayer

open Script (Token parse)

/-! ## What a text is loaded as -/

/-- An error without the place of the script that it is about. -/
def LoadError.placeless : LoadError → LoadError
  | .parse _ e => .parse "" e
  | .emptyScript _ => .emptyScript ""
  | e => e

/-- What a text means wherever it comes from: its tokens, its first fault, or that it has no tokens. -/
def meaning (text : List Char) : Except LoadError (List Token) :=
  match parse (String.ofList text) with
  | .error e => .error (.parse "" e)
  | .ok [] => .error (.emptyScript "")
  | .ok ts => .ok ts

/-- Nothing that a script is read as is lost in what it means. -/
theorem meaning_eq_iff (text text' : List Char) :
    meaning text = meaning text' ↔ parse (String.ofList text) = parse (String.ofList text') := by
  constructor
  · rw [meaning, meaning]
    generalize parse (String.ofList text) = result
    generalize parse (String.ofList text') = result'
    intro h
    rcases result with _ | _ | _ <;> rcases result' with _ | _ | _ <;> simp_all
  · intro h
    rw [meaning, meaning, h]

theorem load_of_fetch {e : ScriptEngine} {sources : Host.Sources} {id : String} {text : List Char}
    (h : (Location.resolve id e.baseUrl).fetch sources = .ok (String.ofList text)) :
    (e.load sources id).mapError LoadError.placeless = meaning text := by
  rw [ScriptEngine.load_of_fetch_eq_ok h, meaning]
  cases parse (String.ofList text) with
  | error err => rfl
  | ok ts => cases ts <;> rfl

/-! ## The text of a download -/

/-- A text without the byte order mark at its start. -/
def withoutMark (text : List Char) : List Char :=
  if text.head? = some byteOrderMark then text.tail else text

theorem decodeLenient_of_decode {body : Bytes} {text : List Char} (h : Utf8.decode body = .ok text) :
    Utf8.decodeLenient body = text := by
  rw [Utf8.decode] at h
  rw [Utf8.decodeLenient]
  generalize Utf8.pieces 0 body = ps at h ⊢
  induction ps generalizing text with
  | nil => exact Except.ok.inj h
  | cons p ps ih =>
    rw [List.mapM_cons] at h
    obtain ⟨c, hc, h⟩ := bind_eq_ok_iff.mp h
    obtain ⟨cs, hcs, h⟩ := bind_eq_ok_iff.mp h
    have hlenient : Utf8.lenient p = c := by
      obtain ⟨i, piece⟩ := p
      cases piece with
      | char d => exact Except.ok.inj hc
      | faulty n => cases hc
      | cut => cases hc
    rw [List.map_cons, ih hcs, hlenient]
    exact Except.ok.inj h

/-- A text begins with a byte that begins a character. -/
theorem following_ne_none_of_decode {b : UInt8} {body : Bytes} {text : List Char}
    (h : Utf8.decode (b :: body) = .ok text) : Utf8.following b ≠ none := by
  intro hb
  rw [Utf8.decode, Utf8.pieces, Utf8.piece, hb, List.mapM_cons] at h
  obtain ⟨c, hc, -⟩ := bind_eq_ok_iff.mp h
  cases hc

/-- A text in UTF-8 is not taken for one in UTF-16. -/
theorem take_ne_of_decode {b b' : UInt8} {body : Bytes} {text : List Char}
    (h : Utf8.decode body = .ok text) (hb : Utf8.following b = none) : body.take 2 ≠ [b, b'] := by
  cases body with
  | nil => exact List.cons_ne_nil _ _ ∘ Eq.symm
  | cons first rest =>
    intro htake
    rw [List.take_succ_cons] at htake
    exact following_ne_none_of_decode h ((List.cons.inj htake).1 ▸ hb)

theorem bodyText_of_decode {body : Bytes} {text : List Char} (h : Utf8.decode body = .ok text) :
    Host.bodyText body = withoutMark text := by
  rw [Host.bodyText, if_neg (take_ne_of_decode h rfl), if_neg (take_ne_of_decode h rfl),
    decodeLenient_of_decode h, withoutMark]
  cases text with
  | nil => rfl
  | cons c rest =>
    by_cases hc : c = byteOrderMark
    · simp [hc]
    · simp [hc]

theorem meaning_withoutMark_iff (text : List Char) :
    meaning text = meaning (withoutMark text) ↔
      (text.head? = some byteOrderMark → ∃ err, parse (String.ofList text) = .error err ∧
        parse (String.ofList text.tail) = .error err) := by
  rw [withoutMark]
  split
  · next hmark =>
    obtain ⟨cs, rfl⟩ := List.head?_eq_some_iff.mp hmark
    rw [meaning_eq_iff, List.tail_cons, Script.parse_mark_eq_iff]
    exact ⟨fun h _ => h, fun h => h hmark⟩
  · next hmark => exact ⟨fun _ h => absurd h hmark, fun _ => rfl⟩

/-! ## Loading -/

section Loads

variable {e : ScriptEngine} {sources : Host.Sources} {id : String} {body : Bytes} {text : List Char}

theorem load_path {path : String} (hbody : Utf8.decode body = .ok text)
    (hpath : Location.resolve id e.baseUrl = .path path)
    (hfile : sources.readFile (utf8 path) = .ok body) :
    (e.load sources id).mapError LoadError.placeless = meaning text := by
  refine load_of_fetch ?_
  rw [hpath, Location.fetch, Host.Sources.readText, hfile]
  simp only [bind, Except.bind, hbody]
  rfl

theorem load_url {url target : String} (hbody : Utf8.decode body = .ok text)
    (hurl : Location.resolve id e.baseUrl = .url url)
    (htarget : Host.requestTarget url = .ok target)
    (hanswer : sources.request target = .answer 200 body) :
    (e.load sources id).mapError LoadError.placeless = meaning (withoutMark text) := by
  refine load_of_fetch ?_
  rw [hurl, Location.fetch, Host.download, htarget]
  simp only [bind, Except.bind, hanswer]
  rw [← bodyText_of_decode hbody]
  rfl

end Loads

/-- **A script from disk and over the network.**  Downloading drops a byte order mark at the start and
reading a file does not, so the two agree unless the text begins with one, and then only where both
scripts have the same fault. -/
theorem loads_agree_iff {e e' : ScriptEngine} {sources sources' : Host.Sources}
    {id id' path url target : String} {body : Bytes} {text : List Char}
    (hbody : Utf8.decode body = .ok text)
    (hpath : Location.resolve id e.baseUrl = .path path)
    (hfile : sources.readFile (utf8 path) = .ok body)
    (hurl : Location.resolve id' e'.baseUrl = .url url)
    (htarget : Host.requestTarget url = .ok target)
    (hanswer : sources'.request target = .answer 200 body) :
    (e.load sources id).mapError LoadError.placeless = meaning text ∧
    (e'.load sources' id').mapError LoadError.placeless = meaning (withoutMark text) ∧
    ((e.load sources id).mapError LoadError.placeless =
        (e'.load sources' id').mapError LoadError.placeless ↔
      (text.head? = some byteOrderMark → ∃ err, parse (String.ofList text) = .error err ∧
        parse (String.ofList text.tail) = .error err)) := by
  have hpath := load_path hbody hpath hfile
  have hurl := load_url hbody hurl htarget hanswer
  refine ⟨hpath, hurl, ?_⟩
  rw [hpath, hurl]
  exact meaning_withoutMark_iff text

/-! ### A mark that goes unnoticed, and one that does not -/

/-- Surroundings in which every file and every answer is the same. -/
def everywhere (body : Bytes) : Host.Sources := ⟨fun _ => .ok body, fun _ => .answer 200 body⟩

/-- A script as bytes with a byte order mark in front. -/
def marked (script : String) : Bytes := [0xEF, 0xBB, 0xBF] ++ utf8 script

theorem resolve_onDisk : Location.resolve "a.ks" none = .path "a.ks" := by decide

theorem resolve_online : Location.resolve "http://[::1]/a" none = .url "http://[::1]/a" := by
  decide

theorem requestTarget_online : Host.requestTarget "http://[::1]/a" = .ok "http://[::1]/a" := by
  cbv

/-- A tag that is not closed is the same fault behind a mark. -/
theorem loads_agree_of_unterminatedTag :
    (ScriptEngine.load ⟨.push, none⟩ (everywhere (marked "[")) "a.ks").mapError
        LoadError.placeless =
      (ScriptEngine.load ⟨.push, none⟩ (everywhere (marked "[")) "http://[::1]/a").mapError
        LoadError.placeless := by
  have hbody : Utf8.decode (marked "[") = .ok [byteOrderMark, '['] := by cbv
  refine (loads_agree_iff hbody resolve_onDisk rfl resolve_online requestTarget_online
    rfl).2.2.mpr fun _ => ?_
  exact ⟨⟨1, .unterminatedTag ""⟩, by cbv, by cbv⟩

/-- On disk a label behind a mark is text, and over the network it is a label. -/
theorem loads_differ_of_marked_label :
    Utf8.decode (marked "*a|b") = .ok (byteOrderMark :: "*a|b".toList) ∧
    ScriptEngine.load ⟨.push, none⟩ (everywhere (marked "*a|b")) "a.ks" =
      .ok [.text "\uFEFF*a|b"] ∧
    ScriptEngine.load ⟨.push, none⟩ (everywhere (marked "*a|b")) "http://[::1]/a" =
      .ok [.label ⟨"a", "b"⟩] := by
  have hbody : Utf8.decode (marked "*a|b") = .ok (byteOrderMark :: "*a|b".toList) := by cbv
  have hfile : (everywhere (marked "*a|b")).readText (utf8 "a.ks") = .ok "\uFEFF*a|b" := by
    simp only [Host.Sources.readText, everywhere, bind, Except.bind, hbody]
    rfl
  have hdownload : Host.download (everywhere (marked "*a|b")).request "http://[::1]/a" =
      .ok "*a|b" := by
    rw [Host.download, requestTarget_online]
    simp only [everywhere, bind, Except.bind, bodyText_of_decode hbody]
    rfl
  have htext : parse "\uFEFF*a|b" = .ok [.text "\uFEFF*a|b"] := by cbv
  have hlabel : parse "*a|b" = .ok [.label ⟨"a", "b"⟩] := by cbv
  refine ⟨hbody, ?_, ?_⟩
  · rw [ScriptEngine.load, resolve_onDisk, Location.fetch, hfile]
    simp only [bind, Except.bind, Except.mapError, htext]
    rfl
  · rw [ScriptEngine.load, resolve_online, Location.fetch, hdownload]
    simp only [bind, Except.bind, Except.mapError, hlabel]
    rfl

end StoryPlayer
