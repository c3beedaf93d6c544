import RedisClient.Proofs.Text.Utf8
import RedisClient.Url.Percent

/-!
# Percent-encoding read back

Decoding goes byte by byte, and takes a `%` for the beginning of a byte if two
digits follow it (`Percent.Decodes`). Whatever decodes like this, a text comes
back if its own percent signs are encoded, whatever else is
(`Percent.decode_encode`). What is written is printable ASCII without the
characters of the set (`Percent.mem_encode`), hence no mark of the syntax around
it, if the set has them all.
-/

namespace RedisClient

namespace Percent

/-! ## Bytes -/

/-- A digit is read as its value. -/
theorem hexByte?_hexDigit {n : Nat} (h : n < 16) :
    hexByte? (.ofNat (hexDigit n).toNat) = some n := by
  have hall : ∀ digit : Fin 16, hexByte? (.ofNat (hexDigit digit).toNat) = some digit := by decide
  exact hall ⟨n, h⟩

/-- It is an ASCII letter or digit. -/
theorem isAlphanum_hexDigit {n : Nat} (h : n < 16) : (hexDigit n).isAlphanum := by
  have hall : ∀ digit : Fin 16, (hexDigit digit).isAlphanum := by decide
  exact hall ⟨n, h⟩

/-- ASCII letters and digits have codes between those of `/` and `{`. -/
theorem toNat_of_isAlphanum {c : Char} (h : c.isAlphanum) : 0x30 ≤ c.toNat ∧ c.toNat ≤ 0x7A := by
  have hrange : (decide (c.val ≥ 'A'.val ∧ c.val ≤ 'Z'.val) ||
      (decide (c.val ≥ 'a'.val) && decide (c.val ≤ 'z'.val)) ||
      (decide (c.val ≥ '0'.val) && decide (c.val ≤ '9'.val))) = true := h
  simp only [Bool.or_eq_true, Bool.and_eq_true, decide_eq_true_eq, ge_iff_le,
    UInt32.le_iff_toNat_le] at hrange
  change ((65 ≤ c.toNat ∧ c.toNat ≤ 90) ∨ (97 ≤ c.toNat ∧ c.toNat ≤ 122)) ∨
    (48 ≤ c.toNat ∧ c.toNat ≤ 57) at hrange
  omega

/-- **Decoding byte by byte.** -/
structure Decodes (decoder : Bytes → Bytes) : Prop where
  /-- No bytes stand for none. -/
  nil : decoder [] = []
  /-- A byte that is no percent sign stands for itself. -/
  plain : ∀ {b : UInt8} (rest : Bytes), b ≠ 37 → decoder (b :: rest) = b :: decoder rest
  /-- A percent sign and two hexadecimal digits stand for the byte that they write. -/
  encoded : ∀ {high low : UInt8} {h l : Nat} (rest : Bytes), hexByte? high = some h →
    hexByte? low = some l →
      decoder (37 :: high :: low :: rest) = .ofNat (h * 16 + l) :: decoder rest

/-- The decoder of the standard does. -/
theorem decodes : Decodes decode where
  nil := rfl
  plain {b} rest hb := by
    have hmark : (b == 37) = false := by simpa using hb
    match rest with
    | [] | [_] => rfl
    | high :: low :: rest => simp [decode, hmark]
  encoded rest hhigh hlow := by simp [decode, hhigh, hlow]

section

variable {decoder : Bytes → Bytes} (laws : Decodes decoder)
include laws

/-- **An encoded byte** is read as the byte. -/
theorem decode_encodeByte (b : UInt8) (rest : Bytes) :
    decoder ((encodeByte b).flatMap Utf8.encodeChar ++ rest) = b :: decoder rest := by
  have hhigh : b.toNat / 16 < 16 := by have := b.toNat_lt; omega
  have hlow : b.toNat % 16 < 16 := by omega
  have hascii : ∀ {n : Nat}, n < 16 → (hexDigit n).toNat < 128 := fun h => by
    have := toNat_of_isAlphanum (isAlphanum_hexDigit h)
    omega
  have hvalue : UInt8.ofNat (b.toNat / 16 * 16 + b.toNat % 16) = b :=
    Utf8.ofNat_eq (by omega)
  simp only [encodeByte, List.flatMap_cons, List.flatMap_nil, List.append_nil,
    Utf8.encodeChar_of_ascii (hascii hhigh), Utf8.encodeChar_of_ascii (hascii hlow)]
  change decoder (37 :: UInt8.ofNat (hexDigit (b.toNat / 16)).toNat ::
    UInt8.ofNat (hexDigit (b.toNat % 16)).toNat :: rest) = _
  rw [laws.encoded rest (hexByte?_hexDigit hhigh) (hexByte?_hexDigit hlow), hvalue]

/-- So are encoded bytes. -/
theorem decode_encodeBytes (bytes rest : Bytes) :
    decoder ((bytes.flatMap encodeByte).flatMap Utf8.encodeChar ++ rest) =
      bytes ++ decoder rest := by
  induction bytes with
  | nil => rfl
  | cons b bytes ih =>
    rw [List.flatMap_cons, List.flatMap_append, List.append_assoc, decode_encodeByte laws, ih]
    rfl

/-! ## Texts -/

variable {set : Char → Bool} (hmark : set '%' = true)
include hmark

/-- A character is read as its bytes, encoded or not. -/
theorem decode_encodeChar (c : Char) (rest : Bytes) :
    decoder ((encodeChar set c).flatMap Utf8.encodeChar ++ rest) =
      Utf8.encodeChar c ++ decoder rest := by
  rw [encodeChar]
  split
  · exact decode_encodeBytes laws _ rest
  · rename_i hplain
    simp only [not_or, Nat.not_lt, Nat.not_le] at hplain
    obtain ⟨-, hhigh, hset⟩ := hplain
    have hne : c ≠ '%' := by
      rintro rfl
      exact hset hmark
    have hbyte : UInt8.ofNat c.toNat ≠ 37 := fun h => by
      have hcode := congrArg UInt8.toNat h
      rw [Utf8.toNat_byte (by omega)] at hcode
      exact hne (Char.toNat_inj.1 hcode)
    rw [List.flatMap_cons, List.flatMap_nil, List.append_nil, Utf8.encodeChar_of_ascii (by omega)]
    exact laws.plain rest hbyte

/-- **What was encoded is read back**, as the bytes of the text. -/
theorem decode_encode (text : String) :
    decoder (Utf8.encode (.ofList (encode set text.toList))) = Utf8.encode text := by
  have hall : ∀ chars : List Char, decoder ((encode set chars).flatMap Utf8.encodeChar) =
      chars.flatMap Utf8.encodeChar := by
    intro chars
    induction chars with
    | nil => exact laws.nil
    | cons c rest ih =>
      rw [encode, List.flatMap_cons, List.flatMap_append, decode_encodeChar laws hmark,
        List.flatMap_cons, ← ih]
      rfl
  rw [Utf8.encode, String.toList_ofList, hall]
  rfl

end

/-- **What is written** is a percent sign, a letter or digit, or a printable ASCII
character that is not in the set. -/
theorem mem_encode {set : Char → Bool} {text : List Char} {c : Char} (h : c ∈ encode set text) :
    c = '%' ∨ c.isAlphanum ∨ 0x20 ≤ c.toNat ∧ c.toNat < 0x7F ∧ set c = false := by
  obtain ⟨origin, -, hc⟩ := List.mem_flatMap.1 h
  rw [encodeChar] at hc
  split at hc
  · obtain ⟨b, -, hc⟩ := List.mem_flatMap.1 hc
    have := b.toNat_lt
    obtain rfl | rfl | rfl : c = '%' ∨ c = _ ∨ c = _ := by simpa [encodeByte] using hc
    · exact .inl rfl
    · exact .inr (.inl (isAlphanum_hexDigit (by omega)))
    · exact .inr (.inl (isAlphanum_hexDigit (by omega)))
  · rename_i hplain
    simp only [not_or, Nat.not_lt, Nat.not_le, Bool.not_eq_true] at hplain
    obtain rfl := List.mem_singleton.1 hc
    exact .inr (.inr hplain)

/-- Only the empty text is written as nothing. -/
theorem encode_eq_nil_iff {set : Char → Bool} (hmark : set '%' = true) {text : String} :
    encode set text.toList = [] ↔ text = "" := by
  constructor
  · intro h
    have hread := decode_encode decodes hmark text
    rw [h] at hread
    exact Utf8.encode_injective hread.symm
  · rintro rfl
    rfl

/-- A text of printable ASCII without the characters of the set is written as it
is. -/
theorem encode_eq_self {set : Char → Bool} {text : List Char}
    (h : ∀ c ∈ text, 0x20 ≤ c.toNat ∧ c.toNat < 0x7F ∧ set c = false) : encode set text = text := by
  induction text with
  | nil => rfl
  | cons c rest ih =>
    obtain ⟨⟨hlow, hhigh, hset⟩, hrest⟩ := List.forall_mem_cons.1 h
    have hplain : ¬ (c.toNat < 0x20 ∨ 0x7F ≤ c.toNat ∨ set c = true) := by
      simp only [hset, Bool.false_eq_true, or_false]
      omega
    have htail : List.flatMap (encodeChar set) rest = rest := ih hrest
    rw [encode, List.flatMap_cons, encodeChar, if_neg hplain, htail]
    rfl

end Percent

end RedisClient
