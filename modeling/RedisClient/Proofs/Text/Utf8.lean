import RedisClient.Text.Utf8

/-!
# UTF-8 there and back

A text has one form in UTF-8: bytes are read as the characters that they are
the form of, and as nothing else (`Utf8.decode_eq_ok_iff`). The reader keeps
only the bits read so far and the range of the byte that may come next, so
what a sequence under way stands for is said by the bytes that may finish it
(`Utf8.Sequence.Finishes`); a sequence that is begun is finished by exactly the
bytes that make up the form of a character (`Utf8.begin_finishes_iff`).
-/

namespace RedisClient

namespace Utf8

/-! ## The form of a character -/

/-- A number is that of a character: it is no surrogate, and not too large. -/
theorem toNat_ofNat {n : Nat} (h : n < 0xD800 ∨ 0xE000 ≤ n ∧ n < 0x110000) :
    (Char.ofNat n).toNat = n := by
  have hvalid : n.isValidChar := by
    rcases h with hlow | ⟨hhigh, hmax⟩
    · exact .inl hlow
    · exact .inr ⟨by omega, hmax⟩
  rw [Char.ofNat, dif_pos hvalid]
  rfl

/-- The number of a character is no surrogate, and not too large. -/
theorem toNat_bounds (c : Char) : c.toNat < 0xD800 ∨ 0xE000 ≤ c.toNat ∧ c.toNat < 0x110000 := by
  rcases c.valid with hlow | ⟨hhigh, hmax⟩
  · exact .inl hlow
  · refine .inr ⟨?_, hmax⟩
    change 0xDFFF < c.toNat at hhigh
    omega

/-- A byte is given by its number. -/
theorem ofNat_eq {n : Nat} {byte : UInt8} (h : n = byte.toNat) : UInt8.ofNat n = byte := by
  rw [h, UInt8.ofNat_toNat]

/-- So is a character. -/
theorem char_ofNat_eq {n : Nat} {c : Char} (h : n = c.toNat) : Char.ofNat n = c := by
  rw [h, Char.ofNat_toNat]

/-- A small number is that of its byte. -/
theorem toNat_byte {n : Nat} (h : n < 256) : (UInt8.ofNat n).toNat = n := by
  rw [UInt8.toNat_ofNat']
  omega

/-- A character is one byte if it is ASCII. -/
theorem encodeChar_of_ascii {c : Char} (h : c.toNat < 128) : encodeChar c = [.ofNat c.toNat] :=
  if_pos h

variable {a b c d : UInt8}

/-- Two bytes are the form of the character that their bits make up. -/
theorem encodeChar_two (ha : 0xC2 ≤ a.toNat ∧ a.toNat < 0xE0)
    (hb : 0x80 ≤ b.toNat ∧ b.toNat ≤ 0xBF) :
    encodeChar (.ofNat ((a.toNat - 0xC0) * 64 + (b.toNat - 0x80))) = [a, b] := by
  rw [encodeChar, toNat_ofNat (by omega), if_neg (by omega), if_pos (by omega)]
  simp only [List.cons.injEq, and_true]
  exact ⟨ofNat_eq (by omega), ofNat_eq (by omega)⟩

/-- So are three bytes. -/
theorem encodeChar_three (ha : 0xE0 ≤ a.toNat ∧ a.toNat < 0xF0)
    (hb : 0x80 ≤ b.toNat ∧ b.toNat ≤ 0xBF) (hc : 0x80 ≤ c.toNat ∧ c.toNat ≤ 0xBF)
    (hlong : a.toNat = 0xE0 → 0xA0 ≤ b.toNat) (hsurrogate : a.toNat = 0xED → b.toNat ≤ 0x9F) :
    encodeChar (.ofNat (((a.toNat - 0xE0) * 64 + (b.toNat - 0x80)) * 64 + (c.toNat - 0x80))) =
      [a, b, c] := by
  rw [encodeChar, toNat_ofNat (by omega), if_neg (by omega), if_neg (by omega),
    if_pos (by omega)]
  simp only [List.cons.injEq, and_true]
  exact ⟨ofNat_eq (by omega), ofNat_eq (by omega), ofNat_eq (by omega)⟩

/-- So are four bytes. -/
theorem encodeChar_four (ha : 0xF0 ≤ a.toNat ∧ a.toNat ≤ 0xF4)
    (hb : 0x80 ≤ b.toNat ∧ b.toNat ≤ 0xBF) (hc : 0x80 ≤ c.toNat ∧ c.toNat ≤ 0xBF)
    (hd : 0x80 ≤ d.toNat ∧ d.toNat ≤ 0xBF) (hlong : a.toNat = 0xF0 → 0x90 ≤ b.toNat)
    (hlarge : a.toNat = 0xF4 → b.toNat ≤ 0x8F) :
    encodeChar (.ofNat ((((a.toNat - 0xF0) * 64 + (b.toNat - 0x80)) * 64 + (c.toNat - 0x80)) * 64 +
      (d.toNat - 0x80))) = [a, b, c, d] := by
  rw [encodeChar, toNat_ofNat (by omega), if_neg (by omega), if_neg (by omega),
    if_neg (by omega)]
  simp only [List.cons.injEq, and_true]
  exact ⟨ofNat_eq (by omega), ofNat_eq (by omega), ofNat_eq (by omega), ofNat_eq (by omega)⟩

/-! ## Sequences under way -/

/-- **The bytes that finish a sequence**, and the character that comes of it. -/
def Sequence.Finishes : Sequence → Bytes → Char → Prop
  | _, [], _ => False
  | s, byte :: tail, ch =>
    (s.low ≤ byte.toNat ∧ byte.toNat ≤ s.high) ∧
      match s.extend byte with
      | .inl piece => tail = [] ∧ piece = .scalar ch
      | .inr next => next.Finishes tail ch

variable {s : Sequence} {seen value low high : Nat} {tail bytes : Bytes} {ch : Char}

/-- The last byte makes a character. -/
theorem finishes_one : (⟨seen, 1, value, low, high⟩ : Sequence).Finishes tail ch ↔
    ∃ b, tail = [b] ∧ (low ≤ b.toNat ∧ b.toNat ≤ high) ∧
      Char.ofNat (value * 64 + (b.toNat - 0x80)) = ch := by
  cases tail with
  | nil => simp [Sequence.Finishes]
  | cons b more =>
    simp only [Sequence.Finishes, Sequence.extend, Nat.le_refl, if_true, Piece.scalar.injEq,
      List.cons.injEq]
    constructor
    · rintro ⟨hb, rfl, rfl⟩
      exact ⟨b, ⟨rfl, rfl⟩, hb, rfl⟩
    · rintro ⟨_, ⟨rfl, rfl⟩, hb, rfl⟩
      exact ⟨hb, rfl, rfl⟩

/-- A byte before the last leaves one fewer to come. -/
theorem finishes_succ {missing : Nat} :
    (⟨seen, missing + 2, value, low, high⟩ : Sequence).Finishes tail ch ↔
      ∃ b more, tail = b :: more ∧ (low ≤ b.toNat ∧ b.toNat ≤ high) ∧
        (⟨seen + 1, missing + 1, value * 64 + (b.toNat - 0x80), 0x80, 0xBF⟩ : Sequence).Finishes
          more ch := by
  cases tail with
  | nil => simp [Sequence.Finishes]
  | cons b more =>
    have hmore : ¬ missing + 2 ≤ 1 := by omega
    simp only [Sequence.Finishes, Sequence.extend, if_neg hmore, List.cons.injEq]
    constructor
    · rintro ⟨hb, hfinishes⟩
      exact ⟨b, more, ⟨rfl, rfl⟩, hb, hfinishes⟩
    · rintro ⟨_, _, ⟨rfl, rfl⟩, hb, hfinishes⟩
      exact ⟨hb, hfinishes⟩

/-! ## The byte that begins a sequence -/

/-- A byte that begins two. -/
theorem begin_two (ha : 0xC2 ≤ a.toNat ∧ a.toNat < 0xE0) :
    begin a = .inr ⟨1, 1, a.toNat - 0xC0, 0x80, 0xBF⟩ := by
  rw [begin, if_neg (by omega), if_neg (by omega), if_pos (by omega)]

/-- A byte that begins three. -/
theorem begin_three (ha : 0xE0 ≤ a.toNat ∧ a.toNat < 0xF0) :
    begin a = .inr ⟨1, 2, a.toNat - 0xE0, if a.toNat = 0xE0 then 0xA0 else 0x80,
      if a.toNat = 0xED then 0x9F else 0xBF⟩ := by
  rw [begin, if_neg (by omega), if_neg (by omega), if_neg (by omega)]
  by_cases hleast : a.toNat = 0xE0
  · simp [hleast]
  · by_cases hsurrogate : a.toNat = 0xED
    · simp [hsurrogate]
    · simp [hleast, hsurrogate, ha.2]

/-- A byte that begins four. -/
theorem begin_four (ha : 0xF0 ≤ a.toNat ∧ a.toNat ≤ 0xF4) :
    begin a = .inr ⟨1, 3, a.toNat - 0xF0, if a.toNat = 0xF0 then 0x90 else 0x80,
      if a.toNat = 0xF4 then 0x8F else 0xBF⟩ := by
  rw [begin, if_neg (by omega), if_neg (by omega), if_neg (by omega), if_neg (by omega),
    if_neg (by omega), if_neg (by omega)]
  by_cases hleast : a.toNat = 0xF0
  · simp [hleast]
  · by_cases hlast : a.toNat = 0xF4
    · simp [hlast]
    · rw [if_neg hleast, if_pos (by omega), if_neg hleast, if_neg hlast]

/-- No other byte begins a sequence. -/
theorem range_of_begin (h : begin a = .inr s) :
    (0xC2 ≤ a.toNat ∧ a.toNat < 0xE0) ∨ (0xE0 ≤ a.toNat ∧ a.toNat < 0xF0) ∨
      (0xF0 ≤ a.toNat ∧ a.toNat ≤ 0xF4) := by
  by_cases hout : a.toNat < 0xC2 ∨ 0xF4 < a.toNat
  · rw [begin] at h
    grind
  · omega

/-- **A byte is a character by itself** if it is the form of that character. -/
theorem begin_scalar_iff : begin a = .inl (.scalar ch) ↔ encodeChar ch = [a] := by
  constructor
  · intro h
    by_cases hascii : a.toNat < 0x80
    · rw [begin, if_pos hascii] at h
      obtain rfl : Char.ofNat a.toNat = ch := by simpa using h
      rw [encodeChar, toNat_ofNat (by omega), if_pos hascii, UInt8.ofNat_toNat]
    · rw [begin] at h
      grind
  · intro h
    rw [encodeChar] at h
    split at h
    · rename_i hascii
      obtain rfl := List.head_eq_of_cons_eq h
      rw [begin, toNat_byte (by omega), if_pos hascii, Char.ofNat_toNat]
    · split at h
      · simp at h
      · split at h <;> simp at h

/-- **A sequence that is begun is finished by the form of a character**, and by
nothing else. -/
theorem begin_finishes_iff :
    (∃ s, begin a = .inr s ∧ s.Finishes tail ch) ↔ tail ≠ [] ∧ encodeChar ch = a :: tail := by
  constructor
  · rintro ⟨s, hbegin, hfinishes⟩
    rcases range_of_begin hbegin with ha | ha | ha
    · rw [begin_two ha] at hbegin
      obtain rfl := Sum.inr.inj hbegin
      obtain ⟨b, rfl, hb, rfl⟩ := finishes_one.1 hfinishes
      exact ⟨List.cons_ne_nil _ _, encodeChar_two ha hb⟩
    · rw [begin_three ha] at hbegin
      obtain rfl := Sum.inr.inj hbegin
      obtain ⟨b, _, rfl, hb, hmore⟩ := finishes_succ.1 hfinishes
      obtain ⟨c, rfl, hc, rfl⟩ := finishes_one.1 hmore
      exact ⟨List.cons_ne_nil _ _, encodeChar_three ha (by grind) hc (by grind) (by grind)⟩
    · rw [begin_four ha] at hbegin
      obtain rfl := Sum.inr.inj hbegin
      obtain ⟨b, _, rfl, hb, hmore⟩ := finishes_succ.1 hfinishes
      obtain ⟨c, _, rfl, hc, hlast⟩ := finishes_succ.1 hmore
      obtain ⟨d, rfl, hd, rfl⟩ := finishes_one.1 hlast
      exact ⟨List.cons_ne_nil _ _, encodeChar_four ha (by grind) hc hd (by grind) (by grind)⟩
  · -- the other way round, by the length of the form
    rintro ⟨hne, hform⟩
    have hbounds := toNat_bounds ch
    rw [encodeChar] at hform
    split at hform
    · simp only [List.cons.injEq] at hform
      exact absurd hform.2.symm hne
    · split at hform
      · obtain ⟨rfl, rfl⟩ := List.cons.inj hform
        have ha := toNat_byte (by omega : 0xC0 + ch.toNat / 64 < 256)
        have hb := toNat_byte (by omega : 0x80 + ch.toNat % 64 < 256)
        refine ⟨_, begin_two (by omega), finishes_one.2 ⟨_, rfl, by omega, ?_⟩⟩
        exact char_ofNat_eq (by omega)
      · split at hform
        · obtain ⟨rfl, rfl⟩ := List.cons.inj hform
          have ha := toNat_byte (by omega : 0xE0 + ch.toNat / 4096 < 256)
          have hb := toNat_byte (by omega : 0x80 + ch.toNat / 64 % 64 < 256)
          have hc := toNat_byte (by omega : 0x80 + ch.toNat % 64 < 256)
          refine ⟨_, begin_three (by omega), finishes_succ.2 ⟨_, _, rfl, ?_, finishes_one.2
            ⟨_, rfl, by omega, char_ofNat_eq (by omega)⟩⟩⟩
          split <;> split <;> omega
        · obtain ⟨rfl, rfl⟩ := List.cons.inj hform
          have ha := toNat_byte (by omega : 0xF0 + ch.toNat / 262144 < 256)
          have hb := toNat_byte (by omega : 0x80 + ch.toNat / 4096 % 64 < 256)
          have hc := toNat_byte (by omega : 0x80 + ch.toNat / 64 % 64 < 256)
          have hd := toNat_byte (by omega : 0x80 + ch.toNat % 64 < 256)
          refine ⟨_, begin_four (by omega), finishes_succ.2 ⟨_, _, rfl, ?_, finishes_succ.2
            ⟨_, _, rfl, by omega, finishes_one.2 ⟨_, rfl, by omega, char_ofNat_eq (by omega)⟩⟩⟩⟩
          split <;> split <;> omega

/-! ## Pieces -/

/-- A sequence that is finished is one piece. -/
theorem piecesFrom_of_finishes (h : s.Finishes tail ch) (rest : Bytes) :
    piecesFrom (some s) (tail ++ rest) = .scalar ch :: piecesFrom none rest := by
  induction tail generalizing s with
  | nil => exact h.elim
  | cons byte more ih =>
    obtain ⟨hrange, hnext⟩ := h
    rw [List.cons_append, piecesFrom, if_pos hrange]
    cases hextend : s.extend byte with
    | inl piece =>
      rw [hextend] at hnext
      obtain ⟨rfl, rfl⟩ := hnext
      rfl
    | inr next =>
      rw [hextend] at hnext
      exact ih hnext

/-- Where all pieces are characters, the sequence under way is finished first. -/
theorem finishes_of_piecesFrom {chars : List Char}
    (h : piecesFrom (some s) bytes = chars.map .scalar) :
    ∃ tail rest c others, bytes = tail ++ rest ∧ chars = c :: others ∧ s.Finishes tail c ∧
      piecesFrom none rest = others.map .scalar := by
  -- a byte out of range would be a malformed piece, and so would the end of the bytes
  induction bytes generalizing s with
  | nil => cases chars <;> simp [piecesFrom] at h
  | cons byte more ih =>
    rw [piecesFrom] at h
    split at h
    · rename_i hrange
      cases hextend : s.extend byte with
      | inl piece =>
        simp only [hextend] at h
        obtain ⟨c, others, rfl, rfl, hmore⟩ := List.map_eq_cons_iff.1 h.symm
        refine ⟨[byte], more, c, others, rfl, rfl, ⟨hrange, ?_⟩, hmore.symm⟩
        simp [hextend]
      | inr next =>
        simp only [hextend] at h
        obtain ⟨tail, rest, c, others, rfl, hchars, hfinishes, hrest⟩ := ih h
        refine ⟨byte :: tail, rest, c, others, rfl, hchars, ⟨hrange, ?_⟩, hrest⟩
        simpa [hextend] using hfinishes
    · cases chars <;> simp at h

/-- The form of a character is one piece, whatever follows it. -/
theorem pieces_encodeChar (c : Char) (rest : Bytes) :
    pieces (encodeChar c ++ rest) = .scalar c :: pieces rest := by
  cases hform : encodeChar c with
  | nil =>
    rw [encodeChar] at hform
    grind
  | cons a tail =>
    by_cases htail : tail = []
    · rw [htail] at hform ⊢
      rw [List.singleton_append, pieces, piecesFrom, begin_scalar_iff.2 hform]
      rfl
    · obtain ⟨s, hbegin, hfinishes⟩ := begin_finishes_iff.2 ⟨htail, hform⟩
      rw [List.cons_append, pieces, piecesFrom, hbegin]
      exact piecesFrom_of_finishes hfinishes rest

/-- **The pieces are characters** exactly if the bytes are the form of these. -/
theorem pieces_eq_iff {chars : List Char} :
    pieces bytes = chars.map .scalar ↔ bytes = chars.flatMap encodeChar := by
  constructor
  · intro h
    -- each character takes its first byte and, if that begins a sequence, what finishes it
    induction chars generalizing bytes with
    | nil =>
      cases bytes with
      | nil => rfl
      | cons a more =>
        rw [pieces, piecesFrom] at h
        cases hbegin : begin a with
        | inl piece => simp [hbegin] at h
        | inr s =>
          simp only [hbegin] at h
          obtain ⟨_, _, _, _, -, hchars, -⟩ := finishes_of_piecesFrom h
          cases hchars
    | cons c others ih =>
      cases bytes with
      | nil => simp [pieces, piecesFrom] at h
      | cons a more =>
        rw [pieces, piecesFrom] at h
        cases hbegin : begin a with
        | inl piece =>
          simp only [hbegin, List.map_cons, List.cons.injEq] at h
          obtain ⟨rfl, hmore⟩ := h
          rw [List.flatMap_cons, begin_scalar_iff.1 hbegin, ← ih hmore]
          rfl
        | inr s =>
          simp only [hbegin] at h
          obtain ⟨tail, rest, first, later, rfl, hchars, hfinishes, hrest⟩ :=
            finishes_of_piecesFrom h
          obtain ⟨rfl, rfl⟩ := List.cons.inj hchars
          obtain ⟨-, hform⟩ := begin_finishes_iff.1 ⟨s, hbegin, hfinishes⟩
          rw [List.flatMap_cons, hform, ← ih hrest]
          rfl
  · rintro rfl
    induction chars with
    | nil => rfl
    | cons c others ih => rw [List.flatMap_cons, pieces_encodeChar, ih, List.map_cons]

/-- Characters come of pieces that are characters, and of no others. -/
theorem charsFrom_eq_ok_iff {index : Nat} {parts : List Piece} {chars : List Char} :
    charsFrom index parts = .ok chars ↔ parts = chars.map .scalar := by
  induction parts generalizing index chars with
  | nil => cases chars <;> simp [charsFrom]
  | cons piece rest ih =>
    cases piece with
    | malformed length | truncated => cases chars <;> simp [charsFrom]
    | scalar c =>
      rw [charsFrom]
      constructor
      · intro h
        cases hrest : charsFrom (index + (encodeChar c).length) rest with
        | error fault => simp [hrest, bind, Except.bind] at h
        | ok others =>
          rw [hrest] at h
          obtain rfl : c :: others = chars := Except.ok.inj h
          rw [ih.1 hrest, List.map_cons]
      · intro h
        obtain ⟨first, others, rfl, hfirst, hothers⟩ := List.map_eq_cons_iff.1 h.symm
        obtain rfl := Piece.scalar.inj hfirst
        rw [ih.2 hothers.symm]
        rfl

/-- **Bytes are read as the text that they are the form of**, and as nothing
else. -/
theorem decode_eq_ok_iff {chars : List Char} :
    decode bytes = .ok chars ↔ bytes = encode (.ofList chars) := by
  rw [decode, charsFrom_eq_ok_iff, pieces_eq_iff, encode, String.toList_ofList]

/-- What was written is read back. -/
theorem decode_encode (chars : List Char) : decode (encode (.ofList chars)) = .ok chars :=
  decode_eq_ok_iff.2 rfl

/-- So is a text. -/
theorem decodeText?_encode (text : String) : decodeText? (encode text) = some text := by
  have hread := decode_encode text.toList
  rw [String.ofList_toList] at hread
  rw [decodeText?, hread]
  exact congrArg some String.ofList_toList

/-- Texts are told apart by their bytes. -/
theorem encode_injective : Function.Injective encode := by
  intro text other h
  have hread := decodeText?_encode text
  rw [h, decodeText?_encode] at hread
  exact (Option.some.inj hread).symm

/-- Where bytes are UTF-8, replacing what is not changes nothing. -/
theorem decodeLossy_encode (text : String) : decodeLossy (encode text) = text := by
  have hpieces : pieces (encode text) = text.toList.map .scalar := pieces_eq_iff.2 rfl
  rw [decodeLossy, hpieces, List.map_map]
  exact (congrArg String.ofList (List.map_id _)).trans String.ofList_toList

end Utf8

end RedisClient
