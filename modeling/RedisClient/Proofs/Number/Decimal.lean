import RedisClient.Number.Decimal

/-!
# Reading numbers back

What `Decimal.ofInt` writes, `Decimal.readInt` reads as the same number, as
long as it lies in the range; outside it is refused. The digits of a number are
ASCII digits (`Decimal.isDigit_of_mem_ofNat`), so nothing else in the text can
be met on the way.
-/

namespace RedisClient

namespace Decimal

/-- The digits of a number are digits. -/
theorem isDigit_of_mem_ofNat {n : Nat} {c : Char} (h : c ∈ ofNat n) : c.isDigit :=
  Nat.isDigit_of_mem_toDigits (by omega) (by omega) h

/-- A digit has its value. -/
theorem digit?_of_isDigit {c : Char} (h : c.isDigit) : digit? c = some (c.toNat - 48) := by
  have hrange : 48 ≤ c.val ∧ c.val ≤ 57 := by simpa [Char.isDigit] using h
  exact if_pos hrange

/-- **Digits are read as the number they spell**, or refused if it is above the
limit. -/
theorem readDigits_eq {limit value : Nat} {overflow : Fault} {digits : List Char}
    (hvalue : value ≤ limit) (hdigits : ∀ c ∈ digits, c.isDigit) :
    readDigits limit overflow value digits =
      if Nat.ofDigitChars 10 digits value ≤ limit then .ok (Nat.ofDigitChars 10 digits value)
      else .error overflow := by
  induction digits generalizing value with
  | nil => rw [readDigits, Nat.ofDigitChars_nil, if_pos hvalue]
  | cons c rest ih =>
    have hrest : ∀ c ∈ rest, c.isDigit := fun d hd => hdigits d (List.mem_cons_of_mem c hd)
    have hc : c.isDigit := hdigits c List.mem_cons_self
    have hnext : 10 * value + (c.toNat - '0'.toNat) = value * 10 + (c.toNat - 48) := by
      rw [Nat.mul_comm]
      rfl
    rw [Nat.ofDigitChars_cons, hnext]
    simp only [readDigits, digit?_of_isDigit hc]
    split
    · rename_i hle
      exact ih hle hrest
    · -- the digits that follow cannot bring the number back under the limit
      rename_i hgt
      have hge : value * 10 + (c.toNat - 48) ≤
          Nat.ofDigitChars 10 rest (value * 10 + (c.toNat - 48)) := by
        rw [Nat.ofDigitChars_eq_ofDigitChars_zero]
        have hpow : 0 < 10 ^ rest.length := Nat.pow_pos (by omega)
        have := Nat.le_mul_of_pos_left (value * 10 + (c.toNat - 48)) hpow
        omega
      rw [if_neg (by omega)]

/-- The digits of a number are read as the number. -/
theorem readMagnitude_ofNat (limit : Nat) (overflow : Fault) (n : Nat) :
    readMagnitude limit overflow (ofNat n) = if n ≤ limit then .ok n else .error overflow := by
  have hne : (ofNat n).isEmpty = false := by
    rw [List.isEmpty_eq_false_iff]
    exact Nat.toDigits_ne_nil
  rw [readMagnitude, hne, if_neg (by simp), readDigits_eq (by omega)
    fun c hc => isDigit_of_mem_ofNat hc]
  rw [ofNat, Nat.ofDigitChars_ten_toDigits]

/-- The digits of a number begin with no sign. -/
theorem ofNat_eq_cons (n : Nat) : ∃ c rest, ofNat n = c :: rest ∧ c ≠ '+' ∧ c ≠ '-' := by
  have hne : ofNat n ≠ [] := Nat.toDigits_ne_nil
  obtain ⟨c, rest, hcons⟩ := List.exists_cons_of_ne_nil hne
  have hmem : c ∈ ofNat n := by
    rw [hcons]
    exact List.mem_cons_self
  have hc : c.isDigit := isDigit_of_mem_ofNat hmem
  refine ⟨c, rest, hcons, ?_, ?_⟩
  · rintro rfl
    exact absurd hc (by decide)
  · rintro rfl
    exact absurd hc (by decide)

/-- **What was written is read back**, if it is in the range. -/
theorem readInt_ofInt (below above : Nat) (n : Int) :
    readInt below above (ofInt n) =
      if n < -below then .error .tooSmall else if above < n then .error .tooLarge else .ok n := by
  cases n with
  | ofNat n =>
    obtain ⟨c, rest, hcons, hplus, hminus⟩ := ofNat_eq_cons n
    have hlow : ¬ Int.ofNat n < -below := by rw [Int.ofNat_eq_natCast]; omega
    have hhigh : above < Int.ofNat n ↔ above < n := by rw [Int.ofNat_eq_natCast]; omega
    rw [ofInt, hcons, readInt, if_neg hplus, if_neg hminus, ← hcons, readMagnitude_ofNat,
      if_neg hlow]
    by_cases hle : n ≤ above
    · rw [if_pos hle, if_neg (by omega)]
      rfl
    · rw [if_neg hle, if_pos (by omega)]
      rfl
  | negSucc n =>
    rw [ofInt, readInt, if_neg (by decide), if_pos rfl, readMagnitude_ofNat]
    by_cases hle : n + 1 ≤ below
    · rw [if_pos hle, if_neg (by omega), if_neg (by omega)]
      rfl
    · rw [if_neg hle, if_pos (by omega)]
      rfl

/-- A number that has no 64 bits is refused. -/
theorem readInt64_ofInt_of_out {n : Int} (h : n < -0x8000000000000000 ∨ 0x8000000000000000 ≤ n) :
    ∃ fault, readInt64 (ofInt n) = .error fault := by
  rw [readInt64, readInt_ofInt]
  by_cases hlow : n < -0x8000000000000000
  · exact ⟨.tooSmall, by rw [if_pos (by omega)]; rfl⟩
  · exact ⟨.tooLarge, by rw [if_neg (by omega), if_pos (by omega)]; rfl⟩

/-- A number without a sign is read back, if it is in the range. -/
theorem readNat_ofNat (above n : Nat) :
    readNat above (ofNat n) = if n ≤ above then .ok n else .error .tooLarge := by
  obtain ⟨c, rest, hcons, hplus, -⟩ := ofNat_eq_cons n
  rw [hcons, readNat, if_neg hplus, ← hcons, readMagnitude_ofNat]

/-- So is every 16-bit number. -/
theorem readUInt16_ofNat (n : UInt16) : readUInt16 (ofNat n.toNat) = .ok n := by
  have hle : n.toNat ≤ 0xFFFF := by have := n.toNat_lt; omega
  rw [readUInt16, readNat_ofNat, if_pos hle]
  exact congrArg Except.ok UInt16.ofNat_toNat

/-- And every 8-bit number. -/
theorem readUInt8_ofNat (n : UInt8) : readUInt8 (ofNat n.toNat) = .ok n := by
  have hle : n.toNat ≤ 0xFF := by have := n.toNat_lt; omega
  rw [readUInt8, readNat_ofNat, if_pos hle]
  exact congrArg Except.ok UInt8.ofNat_toNat

/-- Numbers are told apart by their digits. -/
theorem ofInt_injective {n m : Int} (h : ofInt n = ofInt m) : n = m := by
  -- both are in a range that is wide enough, so reading gives each back
  have hread := congrArg (readInt (n.natAbs + m.natAbs) (n.natAbs + m.natAbs)) h
  rw [readInt_ofInt, readInt_ofInt, if_neg (by omega), if_neg (by omega), if_neg (by omega),
    if_neg (by omega)] at hread
  exact Except.ok.inj hread

end Decimal

end RedisClient
