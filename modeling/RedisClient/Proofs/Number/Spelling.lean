import Mathlib.Data.List.Induction
import RedisClient.Proofs.Number.Decimal

/-!
# Spellings of numbers

A number is written in one way and read from many: behind a sign that it does
not need, and with zeros in front of its digits. `Decimal.Spells` says which
texts these are, and reading gives a number exactly for them
(`Decimal.readInt64_eq_ok_iff`).
-/

namespace RedisClient

namespace Decimal

/-- **The spellings of an integer**: a sign that fits, where a number that is not
negative may do without and zero may have either; any zeros; the digits. -/
def Spells (n : Int) (text : List Char) : Prop :=
  ∃ sign zeros, text = sign ++ List.replicate zeros '0' ++ ofNat n.natAbs ∧
    (0 ≤ n ∧ (sign = [] ∨ sign = ['+']) ∨ n ≤ 0 ∧ sign = ['-'])

/-- What is written is a spelling. -/
theorem spells_ofInt (n : Int) : Spells n (ofInt n) := by
  cases n with
  | ofNat n => exact ⟨[], 0, rfl, .inl ⟨Int.natCast_nonneg n, .inl rfl⟩⟩
  | negSucc n => exact ⟨['-'], 0, rfl, .inr ⟨by omega, rfl⟩⟩

/-! ## Digits -/

/-- A digit's character spells it. -/
theorem digitChar_of_isDigit {c : Char} (h : c.isDigit) :
    (c.toNat - '0'.toNat).digitChar = c ∧ c.toNat - '0'.toNat < 10 := by
  have hrange := Char.isDigit_iff_toNat.1 h
  have hbounds : 48 ≤ c.toNat ∧ c.toNat ≤ 57 := hrange
  have hzero : '0'.toNat = 48 := rfl
  have hlt : c.toNat - '0'.toNat < 10 := by omega
  refine ⟨?_, hlt⟩
  have hnat := Nat.toNat_digitChar_of_lt_ten hlt
  have heq : (c.toNat - '0'.toNat).digitChar.toNat = c.toNat := by omega
  rw [← Char.ofNat_toNat (c.toNat - '0'.toNat).digitChar, heq, Char.ofNat_toNat]

/-- **Digits are zeros and then the digits of their value.** -/
theorem eq_zeros_append_ofNat {digits : List Char} (hne : digits ≠ [])
    (hdigits : ∀ c ∈ digits, c.isDigit) :
    ∃ zeros, digits = List.replicate zeros '0' ++ ofNat (Nat.ofDigitChars 10 digits 0) := by
  -- the value grows by the last digit, so the digits are taken from the end
  induction digits using List.reverseRecOn with
  | nil => exact absurd rfl hne
  | append_singleton front c ih =>
    obtain ⟨hchar, hlt⟩ := digitChar_of_isDigit (hdigits c (by simp))
    have hvalue : Nat.ofDigitChars 10 (front ++ [c]) 0 =
        10 * Nat.ofDigitChars 10 front 0 + (c.toNat - '0'.toNat) := by
      simp [Nat.ofDigitChars_eq_foldl]
    have hlast : ofNat (c.toNat - '0'.toNat) = [c] := by
      rw [ofNat, Nat.toDigits_of_lt_base hlt, hchar]
    rw [hvalue]
    by_cases hfront : front = []
    · subst hfront
      refine ⟨0, ?_⟩
      rw [Nat.ofDigitChars_nil, Nat.mul_zero, Nat.zero_add, hlast]
      rfl
    · obtain ⟨zeros, hzeros⟩ := ih hfront fun d hd => hdigits d (List.mem_append_left _ hd)
      generalize Nat.ofDigitChars 10 front 0 = value at hzeros ⊢
      rcases Nat.eq_zero_or_pos value with rfl | hpos
      · -- so far there are only zeros, and the last of them is one more
        refine ⟨zeros + 1, ?_⟩
        have hzero : ofNat 0 = ['0'] := Nat.toDigits_zero 10
        rw [hzeros, hzero, Nat.mul_zero, Nat.zero_add, hlast, List.replicate_succ']
      · refine ⟨zeros, ?_⟩
        have happend := Nat.toDigits_append_toDigits (b := 10) (by omega) hpos hlt
        change ofNat value ++ ofNat (c.toNat - '0'.toNat) = ofNat _ at happend
        rw [hzeros, ← happend, hlast, List.append_assoc]

/-- Zeros in front change no value. -/
theorem ofDigitChars_zeros_append (zeros n : Nat) :
    Nat.ofDigitChars 10 (List.replicate zeros '0' ++ ofNat n) 0 = n := by
  induction zeros with
  | zero => exact Nat.ofDigitChars_ten_toDigits
  | succ zeros ih =>
    rw [List.replicate_succ, List.cons_append, Nat.ofDigitChars_cons]
    exact ih

/-- Only digits are read. -/
theorem isDigit_of_readDigits {limit value n : Nat} {overflow : Fault} {digits : List Char}
    (h : readDigits limit overflow value digits = .ok n) : ∀ c ∈ digits, c.isDigit := by
  induction digits generalizing value with
  | nil => exact fun c hmem => absurd hmem List.not_mem_nil
  | cons c rest ih =>
    rw [readDigits] at h
    cases hdigit : digit? c with
    | none => simp [hdigit] at h
    | some d =>
      simp only [hdigit] at h
      split at h
      · refine List.forall_mem_cons.2 ⟨?_, ih h⟩
        unfold digit? at hdigit
        split at hdigit
        · rename_i hrange
          have hbounds : 48 ≤ c.val ∧ c.val ≤ 57 := hrange
          simpa [Char.isDigit] using hbounds
        · simp at hdigit
      · simp at h

/-- **A magnitude is read from zeros and its digits**, if it is not above the
limit. -/
theorem readMagnitude_eq_ok_iff {limit n : Nat} {overflow : Fault} {digits : List Char} :
    readMagnitude limit overflow digits = .ok n ↔
      n ≤ limit ∧ ∃ zeros, digits = List.replicate zeros '0' ++ ofNat n := by
  have hempty : digits.isEmpty = true ↔ digits = [] := List.isEmpty_iff
  rw [readMagnitude]
  constructor
  · intro h
    split at h
    · simp at h
    · rename_i hne
      -- that it was read says that these are digits, and then what their value is
      have hdigits := isDigit_of_readDigits h
      rw [readDigits_eq (Nat.zero_le limit) hdigits] at h
      split at h
      · rename_i hle
        obtain rfl := Except.ok.inj h
        exact ⟨hle, eq_zeros_append_ofNat (fun hnil => hne (hempty.2 hnil)) hdigits⟩
      · simp at h
  · rintro ⟨hle, zeros, rfl⟩
    have hne : ofNat n ≠ [] := Nat.toDigits_ne_nil
    have hdigits : ∀ c ∈ List.replicate zeros '0' ++ ofNat n, c.isDigit := by
      intro c hc
      rcases List.mem_append.1 hc with hzero | hdigit
      · obtain ⟨-, rfl⟩ := List.mem_replicate.1 hzero
        decide
      · exact isDigit_of_mem_ofNat hdigit
    rw [if_neg (by simp [hne]), readDigits_eq (Nat.zero_le limit) hdigits,
      ofDigitChars_zeros_append, if_pos hle]

/-! ## Integers -/

/-- Zeros and digits open with no sign. -/
theorem zeros_append_eq_cons (zeros n : Nat) :
    ∃ c rest, List.replicate zeros '0' ++ ofNat n = c :: rest ∧ c ≠ '+' ∧ c ≠ '-' := by
  cases zeros with
  | zero => exact ofNat_eq_cons n
  | succ zeros => exact ⟨'0', _, rfl, by decide, by decide⟩

/-- **An integer is read from its spellings**, if it is in the range. -/
theorem readInt_eq_ok_iff {below above : Nat} {n : Int} {text : List Char} :
    readInt below above text = .ok n ↔ -below ≤ n ∧ n ≤ above ∧ Spells n text := by
  constructor
  · intro h
    cases text with
    | nil => simp [readInt] at h
    | cons c rest =>
      rw [readInt] at h
      split at h
      · rename_i hplus
        rcases hread : readMagnitude above .tooLarge rest with fault | m
        · simp [hread, Except.map] at h
        · rw [hread] at h
          obtain rfl : (m : Int) = n := Except.ok.inj h
          obtain ⟨hle, zeros, rfl⟩ := readMagnitude_eq_ok_iff.1 hread
          exact ⟨by omega, by omega, ['+'], zeros, by rw [hplus]; rfl, .inl ⟨by omega, .inr rfl⟩⟩
      · split at h
        · rename_i hminus
          rcases hread : readMagnitude below .tooSmall rest with fault | m
          · simp [hread, Except.map, bind, Except.bind] at h
          · rw [hread] at h
            obtain rfl : -(m : Int) = n := Except.ok.inj h
            obtain ⟨hle, zeros, rfl⟩ := readMagnitude_eq_ok_iff.1 hread
            refine ⟨by omega, by omega, ['-'], zeros, ?_, .inr ⟨by omega, rfl⟩⟩
            rw [hminus, Int.natAbs_neg, Int.natAbs_natCast]
            rfl
        · rcases hread : readMagnitude above .tooLarge (c :: rest) with fault | m
          · simp [hread, Except.map] at h
          · rw [hread] at h
            obtain rfl : (m : Int) = n := Except.ok.inj h
            obtain ⟨hle, zeros, hdigits⟩ := readMagnitude_eq_ok_iff.1 hread
            exact ⟨by omega, by omega, [], zeros, hdigits, .inl ⟨by omega, .inl rfl⟩⟩
  · rintro ⟨hlow, hhigh, sign, zeros, rfl, hsign⟩
    have hread : ∀ limit overflow, n.natAbs ≤ limit →
        readMagnitude limit overflow (List.replicate zeros '0' ++ ofNat n.natAbs) =
          .ok n.natAbs := fun limit overflow hle => readMagnitude_eq_ok_iff.2 ⟨hle, zeros, rfl⟩
    rcases hsign with ⟨hpos, rfl | rfl⟩ | ⟨hneg, rfl⟩
    · obtain ⟨c, rest, hcons, hplus, hminus⟩ := zeros_append_eq_cons zeros n.natAbs
      rw [List.nil_append, hcons, readInt, if_neg hplus, if_neg hminus, ← hcons,
        hread above _ (by omega)]
      exact congrArg Except.ok (Int.natAbs_of_nonneg hpos)
    · rw [List.append_assoc, List.singleton_append, readInt, if_pos rfl, hread above _ (by omega)]
      exact congrArg Except.ok (Int.natAbs_of_nonneg hpos)
    · have habs : -(n.natAbs : Int) = n := by omega
      rw [List.append_assoc, List.singleton_append, readInt, if_neg (by decide), if_pos rfl,
        hread below _ (by omega)]
      exact congrArg Except.ok habs

/-- **A number of 64 bits is read from its spellings**, and from nothing else. -/
theorem readInt64_eq_ok_iff {n : Int64} {text : List Char} :
    readInt64 text = .ok n ↔ Spells n.toInt text := by
  have hlow := n.le_toInt
  have hhigh := n.toInt_lt
  rw [readInt64]
  constructor
  · intro h
    cases hread : readInt 0x8000000000000000 0x7FFFFFFFFFFFFFFF text with
    | error fault => simp [hread, Except.map] at h
    | ok m =>
      obtain ⟨hmlow, hmhigh, hspells⟩ := readInt_eq_ok_iff.1 hread
      rw [hread] at h
      obtain rfl : Int64.ofInt m = n := Except.ok.inj h
      rwa [Int64.toInt_ofInt_of_le (by omega) (by omega)]
  · intro h
    have hread := readInt_eq_ok_iff.2 ⟨(by omega : -((0x8000000000000000 : Nat) : Int) ≤ n.toInt),
      (by omega : n.toInt ≤ ((0x7FFFFFFFFFFFFFFF : Nat) : Int)), h⟩
    rw [hread]
    exact congrArg Except.ok (Int64.ofInt_toInt n)

end Decimal

end RedisClient
