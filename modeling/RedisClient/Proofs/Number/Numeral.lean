import RedisClient.Proofs.Number.Spelling
import RedisClient.Proofs.Text.Utf8

/-!
# Numerals

On the wire a number is a byte string: ASCII digits, at least one of them, behind
at most one sign. `Decimal.Numeral` is this grammar with the number that a byte
string stands for, an integer of any size. The numerals of a number are the
spellings of it in UTF-8 (`Decimal.numeral_iff`).
-/

namespace RedisClient

namespace Decimal

/-- The number that ASCII digits stand for, however many they are. -/
def value (digits : Bytes) : Nat :=
  digits.foldl (fun value digit => 10 * value + (digit.toNat - 48)) 0

/-- One or more ASCII digits. -/
def Digits (digits : Bytes) : Prop :=
  digits ≠ [] ∧ ∀ digit ∈ digits, 48 ≤ digit.toNat ∧ digit.toNat ≤ 57

/-- **Numerals.** Digits stand for their value, behind a plus sign as well, and
behind a minus sign for its negative. -/
inductive Numeral : Int → Bytes → Prop
  | unsigned {digits : Bytes} (h : Digits digits) : Numeral (value digits) digits
  | plus {digits : Bytes} (h : Digits digits) : Numeral (value digits) (43 :: digits)
  | minus {digits : Bytes} (h : Digits digits) : Numeral (-value digits) (45 :: digits)

/-! ## Digits as bytes and as characters -/

variable {chars : List Char}

/-- The UTF-8 of a text is that of its first character and that of the others. -/
theorem encode_cons (c : Char) (chars : List Char) :
    Utf8.encode (.ofList (c :: chars)) = Utf8.encodeChar c ++ Utf8.encode (.ofList chars) := by
  rw [Utf8.encode, Utf8.encode, String.toList_ofList, String.toList_ofList, List.flatMap_cons]

/-- The number of a digit's character. -/
theorem toNat_of_isDigit {c : Char} (h : c.isDigit) : 48 ≤ c.toNat ∧ c.toNat ≤ 57 :=
  Char.isDigit_iff_toNat.1 h

/-- A digit is one byte. -/
theorem encodeChar_of_isDigit {c : Char} (h : c.isDigit) :
    Utf8.encodeChar c = [.ofNat c.toNat] ∧ (UInt8.ofNat c.toNat).toNat = c.toNat := by
  have hbounds := toNat_of_isDigit h
  exact ⟨Utf8.encodeChar_of_ascii (by omega), Utf8.toNat_byte (by omega)⟩

/-- Reading on behind a number comes to the same on bytes as on characters. -/
theorem foldl_encode (h : ∀ c ∈ chars, c.isDigit) (front : Nat) :
    (Utf8.encode (.ofList chars)).foldl (fun value digit => 10 * value + (digit.toNat - 48)) front =
      Nat.ofDigitChars 10 chars front := by
  induction chars generalizing front with
  | nil => rfl
  | cons c rest ih =>
    obtain ⟨hc, hrest⟩ := List.forall_mem_cons.1 h
    obtain ⟨hform, hbyte⟩ := encodeChar_of_isDigit hc
    rw [encode_cons, hform, List.singleton_append, List.foldl_cons, hbyte, ih hrest,
      Nat.ofDigitChars_cons]
    rfl

/-- **The value of digits** is that of their characters. -/
theorem value_encode (h : ∀ c ∈ chars, c.isDigit) :
    value (Utf8.encode (.ofList chars)) = Nat.ofDigitChars 10 chars 0 :=
  foldl_encode h 0

/-- The bytes of digits are digits. -/
theorem digits_encode (hne : chars ≠ []) (h : ∀ c ∈ chars, c.isDigit) :
    Digits (Utf8.encode (.ofList chars)) := by
  constructor
  · obtain ⟨c, rest, rfl⟩ := List.exists_cons_of_ne_nil hne
    have hc := (encodeChar_of_isDigit (h c List.mem_cons_self)).1
    rw [encode_cons, hc]
    exact List.cons_ne_nil _ _
  · intro digit hdigit
    rw [Utf8.encode, String.toList_ofList, List.mem_flatMap] at hdigit
    obtain ⟨c, hc, hmem⟩ := hdigit
    obtain ⟨hform, hbyte⟩ := encodeChar_of_isDigit (h c hc)
    rw [hform, List.mem_singleton] at hmem
    rw [hmem, hbyte]
    exact toNat_of_isDigit (h c hc)

/-- **Digits are the bytes of some characters** that are digits. -/
theorem Digits.exists_chars {digits : Bytes} (h : Digits digits) :
    ∃ chars, digits = Utf8.encode (.ofList chars) ∧ chars ≠ [] ∧ ∀ c ∈ chars, c.isDigit := by
  obtain ⟨hne, hdigits⟩ := h
  have hchar : ∀ digit ∈ digits, (Char.ofNat digit.toNat).toNat = digit.toNat := fun digit hmem =>
    Utf8.toNat_ofNat (by have := hdigits digit hmem; omega)
  have hdigit : ∀ digit ∈ digits, (Char.ofNat digit.toNat).isDigit := fun digit hmem =>
    Char.isDigit_iff_toNat.2 (by rw [hchar digit hmem]; exact hdigits digit hmem)
  refine ⟨digits.map fun digit => .ofNat digit.toNat, ?_, by simpa using hne, by simpa using hdigit⟩
  clear hne hdigits
  induction digits with
  | nil => rfl
  | cons digit rest ih =>
    obtain ⟨hfirst, hrest⟩ := List.forall_mem_cons.1 hdigit
    have hform := (encodeChar_of_isDigit hfirst).1
    rw [hchar digit List.mem_cons_self, UInt8.ofNat_toNat] at hform
    rw [List.map_cons, encode_cons, hform, List.singleton_append,
      ← ih (List.forall_mem_cons.1 hchar).2 hrest]

/-! ## Numerals and spellings -/

/-- Digits with zeros in front are those of the number behind these. -/
theorem numeral_zeros (zeros n : Nat) :
    let digits := Utf8.encode (.ofList (List.replicate zeros '0' ++ ofNat n))
    Digits digits ∧ value digits = n := by
  have hne : List.replicate zeros '0' ++ ofNat n ≠ [] :=
    List.append_ne_nil_of_right_ne_nil _ Nat.toDigits_ne_nil
  have hdigits : ∀ c ∈ List.replicate zeros '0' ++ ofNat n, c.isDigit := by
    intro c hc
    rcases List.mem_append.1 hc with hzero | hdigit
    · obtain ⟨-, rfl⟩ := List.mem_replicate.1 hzero
      decide
    · exact isDigit_of_mem_ofNat hdigit
  exact ⟨digits_encode hne hdigits, (value_encode hdigits).trans (ofDigitChars_zeros_append zeros n)⟩

/-- A sign is one byte in front of the others. -/
theorem encode_sign {sign : Char} {byte : UInt8} (h : Utf8.encodeChar sign = [byte])
    (zeros digits : List Char) :
    Utf8.encode (.ofList ([sign] ++ zeros ++ digits)) =
      byte :: Utf8.encode (.ofList (zeros ++ digits)) := by
  rw [List.append_assoc, List.singleton_append, encode_cons, h, List.singleton_append]

/-- **The numerals of a number are its spellings**, in UTF-8. -/
theorem numeral_iff {n : Int} {bytes : Bytes} :
    Numeral n bytes ↔ ∃ text, Spells n text ∧ bytes = Utf8.encode (.ofList text) := by
  constructor
  · intro h
    -- whatever the sign is, the digits are zeros and then those of their value
    have hsplit : ∀ {digits}, Digits digits → ∃ zeros, digits = Utf8.encode
        (.ofList (List.replicate zeros '0' ++ ofNat (value digits))) := by
      intro digits hdigits
      obtain ⟨chars, rfl, hne, hall⟩ := hdigits.exists_chars
      obtain ⟨zeros, hzeros⟩ := eq_zeros_append_ofNat hne hall
      exact ⟨zeros, by rw [value_encode hall, ← hzeros]⟩
    cases h with
    | @unsigned digits hdigits =>
      obtain ⟨zeros, hzeros⟩ := hsplit hdigits
      exact ⟨_, ⟨[], zeros, rfl, .inl ⟨Int.natCast_nonneg _, .inl rfl⟩⟩, hzeros⟩
    | @plus digits hdigits =>
      obtain ⟨zeros, hzeros⟩ := hsplit hdigits
      have hsign : Utf8.encodeChar '+' = [43] := rfl
      refine ⟨_, ⟨['+'], zeros, rfl, .inl ⟨Int.natCast_nonneg _, .inr rfl⟩⟩, ?_⟩
      rw [encode_sign hsign]
      exact congrArg (43 :: ·) hzeros
    | @minus digits hdigits =>
      obtain ⟨zeros, hzeros⟩ := hsplit hdigits
      have hsign : Utf8.encodeChar '-' = [45] := rfl
      refine ⟨_, ⟨['-'], zeros, rfl, .inr ⟨by omega, rfl⟩⟩, ?_⟩
      rw [encode_sign hsign, Int.natAbs_neg]
      exact congrArg (45 :: ·) hzeros
  · rintro ⟨_, ⟨sign, zeros, rfl, hsign⟩, rfl⟩
    obtain ⟨hdigits, hvalue⟩ := numeral_zeros zeros n.natAbs
    rcases hsign with ⟨hpos, rfl | rfl⟩ | ⟨hneg, rfl⟩
    · have hnumeral := Numeral.unsigned hdigits
      rwa [hvalue, Int.natAbs_of_nonneg hpos] at hnumeral
    · have hnumeral := Numeral.plus hdigits
      rw [hvalue, Int.natAbs_of_nonneg hpos] at hnumeral
      rwa [encode_sign rfl]
    · have hnumeral := Numeral.minus hdigits
      have habs : -(n.natAbs : Int) = n := by omega
      rw [hvalue, habs] at hnumeral
      rwa [encode_sign rfl]

end Decimal

end RedisClient
