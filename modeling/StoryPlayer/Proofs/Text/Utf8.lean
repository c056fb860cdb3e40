import StoryPlayer.Text.Utf8

/-!
# Reading texts back

The bytes of a text read as the text (`Utf8.decode_encode`). A byte below 128 in them is a character
by itself, so a text can be cut at such a character before or after it is turned into bytes
(`Utf8.splitOn_encode`).
-/

namespace StoryPlayer.Utf8

variable {b : UInt8} {n : Nat}

theorem toNat_ofNat_of_lt (h : n < 256) : (UInt8.ofNat n).toNat = n := by
  rw [UInt8.toNat_ofNat', Nat.mod_eq_of_lt h]

/-! ## First and further bytes -/

theorem following_eq (b : UInt8) :
    following b =
      if b.toNat < 0x80 then some 0
      else if 0xC2 ≤ b.toNat ∧ b.toNat ≤ 0xDF then some 1
      else if 0xE0 ≤ b.toNat ∧ b.toNat ≤ 0xEF then some 2
      else if 0xF0 ≤ b.toNat ∧ b.toNat ≤ 0xF4 then some 3
      else none := by
  simp [following, UInt8.lt_iff_toNat_lt, UInt8.le_iff_toNat_le]

theorem mayFollow_eq (b c : UInt8) :
    mayFollow b c =
      if b.toNat = 0xE0 then decide (0xA0 ≤ c.toNat ∧ c.toNat ≤ 0xBF)
      else if b.toNat = 0xED then decide (0x80 ≤ c.toNat ∧ c.toNat ≤ 0x9F)
      else if b.toNat = 0xF0 then decide (0x90 ≤ c.toNat ∧ c.toNat ≤ 0xBF)
      else if b.toNat = 0xF4 then decide (0x80 ≤ c.toNat ∧ c.toNat ≤ 0x8F)
      else decide (0x80 ≤ c.toNat ∧ c.toNat ≤ 0xBF) := by
  simp [mayFollow, isContinuation, UInt8.le_iff_toNat_le, ← UInt8.toNat_inj]

theorem isContinuation_ofNat (h : n < 64) : isContinuation (UInt8.ofNat (n + 0x80)) = true := by
  have hn : (UInt8.ofNat (n + 0x80)).toNat = n + 0x80 := toNat_ofNat_of_lt (by omega)
  simp only [isContinuation, UInt8.le_iff_toNat_le, hn, Bool.and_eq_true, decide_eq_true_eq]
  exact ⟨Nat.le_add_left _ _, by simp; omega⟩

theorem payload_ofNat (h : n < 64) : payload (UInt8.ofNat (n + 0x80)) = n := by
  rw [payload, toNat_ofNat_of_lt (by omega)]
  omega

/-! ## Pieces -/

variable {c d : UInt8}

theorem piece_of_one (hb : following b = some 0) (rest : Bytes) :
    piece b rest = .char (Char.ofNat b.toNat) := by
  simp only [piece, hb]

theorem piece_of_two (hb : following b = some 1) (hc : mayFollow b c = true) (rest : Bytes) :
    piece b (c :: rest) = .char (Char.ofNat (b.toNat % 32 * 64 + payload c)) := by
  simp [piece, hb, hc]

theorem piece_of_three (hb : following b = some 2) (hc : mayFollow b c = true)
    (hd : isContinuation d = true) (rest : Bytes) :
    piece b (c :: d :: rest) =
      .char (Char.ofNat ((b.toNat % 16 * 64 + payload c) * 64 + payload d)) := by
  simp [piece, hb, hc, hd]

theorem piece_of_four {e : UInt8} (hb : following b = some 3) (hc : mayFollow b c = true)
    (hd : isContinuation d = true) (he : isContinuation e = true) (rest : Bytes) :
    piece b (c :: d :: e :: rest) =
      .char (Char.ofNat (((b.toNat % 8 * 64 + payload c) * 64 + payload d) * 64 + payload e)) := by
  simp [piece, hb, hc, hd, he]

/-! ## The bytes of a character -/

/-- A first byte and further ones that read as a character, whatever comes after them. -/
structure Spells (k : Char) (first : UInt8) (further : Bytes) : Prop where
  following : following first = some further.length
  piece : ∀ rest, piece first (further ++ rest) = .char k
  /-- Only a single byte is below 128, and it is the number of the character. -/
  single : ∀ b ∈ first :: further, b.toNat < 0x80 → further = [] ∧ k.toNat = b.toNat

theorem Spells.of_large {k : Char} {further : Bytes} (hf : Utf8.following b = some further.length)
    (hp : ∀ rest, Utf8.piece b (further ++ rest) = .char k)
    (hl : ∀ c ∈ b :: further, 0x80 ≤ c.toNat) : Spells k b further :=
  ⟨hf, hp, fun c hc hlt => absurd hlt (Nat.not_lt.mpr (hl c hc))⟩

variable {k : Char} {w x y z : Nat}

theorem toNat_valid (k : Char) : k.toNat < 0xD800 ∨ 0xDFFF < k.toNat ∧ k.toNat < 0x110000 := k.valid

theorem spells_one (h : k.toNat < 0x80) : Spells k (UInt8.ofNat k.toNat) [] := by
  have hb : (UInt8.ofNat k.toNat).toNat = k.toNat := toNat_ofNat_of_lt (by omega)
  have hf : Utf8.following (UInt8.ofNat k.toNat) = some 0 := by
    rw [following_eq, hb, if_pos h]
  refine ⟨hf, fun rest => ?_, fun b hm _ => ?_⟩
  · rw [piece_of_one hf, hb, Char.ofNat_toNat]
  · rw [List.mem_singleton.mp hm, hb]
    exact ⟨rfl, rfl⟩

theorem spells_two (hk : k.toNat = w * 64 + x) (h : 0x80 ≤ k.toNat) (hw : w < 32) (hx : x < 64) :
    Spells k (UInt8.ofNat (w + 0xC0)) [UInt8.ofNat (x + 0x80)] := by
  have hb : (UInt8.ofNat (w + 0xC0)).toNat = w + 0xC0 := toNat_ofNat_of_lt (by omega)
  have hc : (UInt8.ofNat (x + 0x80)).toNat = x + 0x80 := toNat_ofNat_of_lt (by omega)
  have hf : Utf8.following (UInt8.ofNat (w + 0xC0)) = some 1 := by
    rw [following_eq, hb, if_neg (by omega), if_pos (by omega)]
  have hm : mayFollow (UInt8.ofNat (w + 0xC0)) (UInt8.ofNat (x + 0x80)) = true := by
    rw [mayFollow_eq, hb, hc, if_neg (by omega), if_neg (by omega), if_neg (by omega),
      if_neg (by omega), decide_eq_true_iff]
    omega
  refine .of_large hf (fun rest => ?_) ?_
  · rw [List.singleton_append, piece_of_two hf hm, hb, payload_ofNat hx,
      show (w + 0xC0) % 32 * 64 + x = k.toNat by omega, Char.ofNat_toNat]
  · simp only [List.forall_mem_cons, hb, hc]
    exact ⟨by omega, by omega, nofun⟩

theorem spells_three (hk : k.toNat = (w * 64 + x) * 64 + y) (h : 0x800 ≤ k.toNat) (hw : w < 16)
    (hx : x < 64) (hy : y < 64) :
    Spells k (UInt8.ofNat (w + 0xE0)) [UInt8.ofNat (x + 0x80), UInt8.ofNat (y + 0x80)] := by
  have hvalid := toNat_valid k
  have hb : (UInt8.ofNat (w + 0xE0)).toNat = w + 0xE0 := toNat_ofNat_of_lt (by omega)
  have hc : (UInt8.ofNat (x + 0x80)).toNat = x + 0x80 := toNat_ofNat_of_lt (by omega)
  have hd : (UInt8.ofNat (y + 0x80)).toNat = y + 0x80 := toNat_ofNat_of_lt (by omega)
  have hf : Utf8.following (UInt8.ofNat (w + 0xE0)) = some 2 := by
    rw [following_eq, hb, if_neg (by omega), if_neg (by omega), if_pos (by omega)]
  have hm : mayFollow (UInt8.ofNat (w + 0xE0)) (UInt8.ofNat (x + 0x80)) = true := by
    -- After 0xE0 comes no small number, by `h`, and after 0xED no surrogate.
    rw [mayFollow_eq, hb, hc]
    repeat' split
    all_goals
      rw [decide_eq_true_iff]
      omega
  refine .of_large hf (fun rest => ?_) ?_
  · change piece _ (_ :: _ :: rest) = _
    rw [piece_of_three hf hm (isContinuation_ofNat hy), hb, payload_ofNat hx, payload_ofNat hy,
      show ((w + 0xE0) % 16 * 64 + x) * 64 + y = k.toNat by omega, Char.ofNat_toNat]
  · simp only [List.forall_mem_cons, hb, hc, hd]
    exact ⟨by omega, by omega, by omega, nofun⟩

theorem spells_four (hk : k.toNat = ((w * 64 + x) * 64 + y) * 64 + z) (h : 0x10000 ≤ k.toNat)
    (hw : w < 8) (hx : x < 64) (hy : y < 64) (hz : z < 64) :
    Spells k (UInt8.ofNat (w + 0xF0))
      [UInt8.ofNat (x + 0x80), UInt8.ofNat (y + 0x80), UInt8.ofNat (z + 0x80)] := by
  have hvalid := toNat_valid k
  have hb : (UInt8.ofNat (w + 0xF0)).toNat = w + 0xF0 := toNat_ofNat_of_lt (by omega)
  have hc : (UInt8.ofNat (x + 0x80)).toNat = x + 0x80 := toNat_ofNat_of_lt (by omega)
  have hd : (UInt8.ofNat (y + 0x80)).toNat = y + 0x80 := toNat_ofNat_of_lt (by omega)
  have he : (UInt8.ofNat (z + 0x80)).toNat = z + 0x80 := toNat_ofNat_of_lt (by omega)
  have hf : Utf8.following (UInt8.ofNat (w + 0xF0)) = some 3 := by
    rw [following_eq, hb, if_neg (by omega), if_neg (by omega), if_neg (by omega),
      if_pos (by omega)]
  have hm : mayFollow (UInt8.ofNat (w + 0xF0)) (UInt8.ofNat (x + 0x80)) = true := by
    -- After 0xF0 comes no small number, by `h`, and after 0xF4 none that is too large.
    rw [mayFollow_eq, hb, hc]
    repeat' split
    all_goals
      rw [decide_eq_true_iff]
      omega
  refine .of_large hf (fun rest => ?_) ?_
  · change piece _ (_ :: _ :: _ :: rest) = _
    rw [piece_of_four hf hm (isContinuation_ofNat hy) (isContinuation_ofNat hz), hb,
      payload_ofNat hx, payload_ofNat hy, payload_ofNat hz,
      show (((w + 0xF0) % 8 * 64 + x) * 64 + y) * 64 + z = k.toNat by omega, Char.ofNat_toNat]
  · simp only [List.forall_mem_cons, hb, hc, hd, he]
    exact ⟨by omega, by omega, by omega, by omega, nofun⟩

/-- The bytes of a character spell it. -/
theorem exists_spells (k : Char) :
    ∃ first further, String.utf8EncodeChar k = first :: further ∧ Spells k first further := by
  have hvalid := toNat_valid k
  have hval : k.val.toNat = k.toNat := rfl
  rw [String.utf8EncodeChar, hval]
  split
  · exact ⟨_, _, rfl, spells_one (by omega)⟩
  · split
    · exact ⟨_, _, rfl, spells_two (by omega) (by omega) (by omega) (by omega)⟩
    · split
      · exact ⟨_, _, rfl, spells_three (by omega) (by omega) (by omega) (by omega) (by omega)⟩
      · exact ⟨_, _, rfl,
          spells_four (by omega) (by omega) (by omega) (by omega) (by omega) (by omega)⟩

/-! ## Texts -/

theorem encode_cons (k : Char) (cs : List Char) :
    encode (k :: cs) = String.utf8EncodeChar k ++ encode cs := List.flatMap_cons

theorem encode_append (cs cs' : List Char) : encode (cs ++ cs') = encode cs ++ encode cs' :=
  List.flatMap_append

theorem encode_singleton (k : Char) : encode [k] = String.utf8EncodeChar k := List.flatMap_singleton _ _

theorem encode_ne_nil {cs : List Char} (h : cs ≠ []) : encode cs ≠ [] := by
  obtain ⟨k, rest, rfl⟩ := List.exists_cons_of_ne_nil h
  rw [encode_cons]
  exact List.append_ne_nil_of_left_ne_nil String.utf8EncodeChar_ne_nil _

/-- A character comes out of its bytes, and the rest is read on its own. -/
theorem exists_pieces_encode (k : Char) (bytes : Bytes) (i : Nat) :
    ∃ j, pieces i (String.utf8EncodeChar k ++ bytes) = (i, .char k) :: pieces j bytes := by
  obtain ⟨first, further, hk, h⟩ := exists_spells k
  have htail : (Piece.char k).tail first (further ++ bytes) = further.length := by
    rw [Piece.tail, h.following]
    rfl
  refine ⟨i + 1 + further.length, ?_⟩
  rw [hk, List.cons_append, pieces, h.piece, htail, List.drop_left]

theorem mapM_strict_pieces_encode (cs : List Char) (i : Nat) :
    (pieces i (encode cs)).mapM strict = .ok cs := by
  induction cs generalizing i with
  | nil => rw [encode, List.flatMap_nil, pieces]; rfl
  | cons k cs ih =>
    obtain ⟨j, hj⟩ := exists_pieces_encode k (encode cs) i
    rw [encode_cons, hj, List.mapM_cons, ih]
    rfl

/-- **The bytes of a text read as the text.** -/
theorem decode_encode (cs : List Char) : decode (encode cs) = .ok cs :=
  mapM_strict_pieces_encode cs 0

/-! ## Characters of one byte -/

/-- A byte below 128 among those of a character is all of them. -/
theorem encodeChar_of_mem (hb : b ∈ String.utf8EncodeChar k) (h : b.toNat < 0x80) :
    String.utf8EncodeChar k = [b] ∧ k.toNat = b.toNat := by
  obtain ⟨first, further, hk, hs⟩ := exists_spells k
  rw [hk] at hb ⊢
  obtain ⟨rfl, hn⟩ := hs.single b hb h
  rw [List.mem_singleton.mp hb] at hn ⊢
  exact ⟨rfl, hn⟩

theorem eq_of_mem_encodeChar {sep : Char} (hsep : String.utf8EncodeChar sep = [b])
    (h : b.toNat < 0x80) (hb : b ∈ String.utf8EncodeChar k) : k = sep := by
  have hk := (encodeChar_of_mem hb h).2
  have hs := (encodeChar_of_mem (k := sep) (by rw [hsep]; exact List.mem_singleton_self b) h).2
  exact Char.toNat_inj.mp (hk.trans hs.symm)

theorem splitOn_append {l : Bytes} (h : b ∉ l) (l' : Bytes) :
    (l ++ l').splitOn b = (l'.splitOn b).modifyHead (l ++ ·) := by
  induction l with
  | nil =>
    rw [List.nil_append]
    cases l'.splitOn b with
    | nil => rfl
    | cons _ _ => rfl
  | cons c l ih =>
    rw [List.mem_cons, not_or] at h
    rw [List.cons_append, List.splitOn_cons_eq_if_modifyHead, if_neg (by simpa using Ne.symm h.1),
      ih h.2, List.modifyHead_modifyHead]
    rfl

/-- Cutting the bytes of a text at a character of one byte is cutting the text. -/
theorem splitOn_encode {sep : Char} (hsep : String.utf8EncodeChar sep = [b]) (h : b.toNat < 0x80)
    (cs : List Char) : (encode cs).splitOn b = (cs.splitOn sep).map encode := by
  induction cs with
  | nil => rfl
  | cons k cs ih =>
    rw [encode_cons, List.splitOn_cons_eq_if_modifyHead]
    split
    · rename_i hk
      rw [eq_of_beq hk, hsep, List.singleton_append, List.splitOn_cons_eq_if_modifyHead,
        if_pos (by simp), ih]
      rfl
    · rename_i hk
      have hb : b ∉ String.utf8EncodeChar k := fun hb =>
        hk (beq_iff_eq.mpr (eq_of_mem_encodeChar hsep h hb))
      rw [splitOn_append hb, ih]
      cases cs.splitOn sep with
      | nil => rfl
      | cons line rest => simp [encode_cons]

/-- The bytes of a text end in a character of one byte if the text does. -/
theorem getLast?_encode_eq_some_iff {last : Char} (hlast : String.utf8EncodeChar last = [b])
    (h : b.toNat < 0x80) (cs : List Char) :
    (encode cs).getLast? = some b ↔ cs.getLast? = some last := by
  constructor
  · intro hb
    rcases cs.eq_nil_or_concat with rfl | ⟨front, k, rfl⟩
    · cases hb
    · obtain ⟨first, further, hk, -⟩ := exists_spells k
      rw [List.concat_eq_append, encode_append, encode_singleton, hk, List.getLast?_append,
        List.getLast?_cons, Option.some_or, ← List.getLast?_cons, ← hk] at hb
      rw [List.concat_eq_append, List.getLast?_concat,
        eq_of_mem_encodeChar hlast h (List.mem_of_getLast? hb)]
  · intro hcs
    obtain ⟨front, rfl⟩ := List.getLast?_eq_some_iff.mp hcs
    rw [encode_append, encode_singleton, hlast, List.getLast?_concat]

end StoryPlayer.Utf8
