import RedisClient.Proofs.Number.Decimal
import RedisClient.Proofs.Number.Rounding
import RedisClient.Proofs.Text.Cut

/-!
# The syntax of binary64 numbers

A number in writing is an optional sign, and then digits with at most one point
and an optional power of ten (`Binary64.Literal.Writes`), or a word for infinity or
for what is no number, in letters of either case. A literal stands for a rational
number, and what is read is the pattern that this rounds to. `Binary64.Numeral` is
this grammar with the number that a text stands for; a text is read as a number
exactly if it is a numeral of it (`Binary64.read?_eq_some_iff`).
-/

namespace RedisClient

namespace Binary64

/-! ## The grammar -/

/-- The number that digits stand for. -/
def numberOf (digits : List Char) : Nat := Nat.ofDigitChars 10 digits 0

/-- **Powers of ten**: nothing stands for the power of zero, and a letter for the
power of the digits behind it, which may have a sign. -/
inductive Power : Int → List Char → Prop
  | none : Power 0 []
  | unsigned {letter : Char} {digits : List Char} (hletter : letter = 'e' ∨ letter = 'E')
    (hne : digits ≠ []) (hdigits : ∀ c ∈ digits, c.isDigit) :
    Power (numberOf digits) (letter :: digits)
  | plus {letter : Char} {digits : List Char} (hletter : letter = 'e' ∨ letter = 'E')
    (hne : digits ≠ []) (hdigits : ∀ c ∈ digits, c.isDigit) :
    Power (numberOf digits) (letter :: '+' :: digits)
  | minus {letter : Char} {digits : List Char} (hletter : letter = 'e' ∨ letter = 'E')
    (hne : digits ≠ []) (hdigits : ∀ c ∈ digits, c.isDigit) :
    Power (-numberOf digits) (letter :: '-' :: digits)

/-- **Literals**: digits and a power of ten, with a point among the digits or beside
them or none. Every digit behind the point takes one from the exponent. -/
inductive Literal.Writes : Literal → List Char → Prop
  | whole {digits power : List Char} {exponent : Int} (hne : digits ≠ [])
    (hdigits : ∀ c ∈ digits, c.isDigit) (hpower : Power exponent power) :
    Writes ⟨numberOf digits, exponent⟩ (digits ++ power)
  | point {digits places power : List Char} {exponent : Int} (hne : digits ++ places ≠ [])
    (hdigits : ∀ c ∈ digits ++ places, c.isDigit) (hpower : Power exponent power) :
    Writes ⟨numberOf (digits ++ places), exponent - places.length⟩
      (digits ++ '.' :: (places ++ power))

/-- The rational number that a literal stands for. -/
def Literal.value (literal : Literal) : ℚ := literal.digits * 10 ^ literal.exponent

/-- **Magnitudes**: a literal stands for the pattern that it rounds to, and two words
in letters of either case for infinity, a third one for what is no number. -/
inductive Magnitude : Nat → List Char → Prop
  | number {literal : Literal} {text : List Char} {magnitude : Nat}
    (hwrites : literal.Writes text) (hnearest : Nearest literal.value magnitude) :
    Magnitude magnitude text
  | infinity {text : List Char}
    (hword : text.map Char.toLower = "inf".toList ∨ text.map Char.toLower = "infinity".toList) :
    Magnitude infinityBits text
  | nan {text : List Char} (hword : text.map Char.toLower = "nan".toList) :
    Magnitude Binary64.nan.magnitudeBits text

/-- **Numerals of binary64 numbers**: a magnitude behind a sign at most. -/
inductive Numeral : Binary64 → List Char → Prop
  | unsigned {magnitude : Nat} {text : List Char} (h : Magnitude magnitude text) :
    Numeral (ofMagnitude false magnitude) text
  | plus {magnitude : Nat} {text : List Char} (h : Magnitude magnitude text) :
    Numeral (ofMagnitude false magnitude) ('+' :: text)
  | minus {magnitude : Nat} {text : List Char} (h : Magnitude magnitude text) :
    Numeral (ofMagnitude true magnitude) ('-' :: text)

/-- **A pattern keeps its sign and its magnitude**, which are all that it has. -/
theorem ofMagnitude_spec {magnitude : Nat} (h : magnitude < signBit) (negative : Bool) :
    (ofMagnitude negative magnitude).magnitudeBits = magnitude ∧
      (ofMagnitude negative magnitude).isNegative = negative := by
  unfold signBit at h
  cases negative with
  | false =>
    have hbits : (ofMagnitude false magnitude).bits.toNat = magnitude :=
      UInt64.toNat_ofNat_of_lt' (show magnitude < 2 ^ 64 by omega)
    simp only [magnitudeBits, isNegative, hbits, decide_eq_false_iff_not, signBit]
    omega
  | true =>
    have hbits : (ofMagnitude true magnitude).bits.toNat = signBit + magnitude :=
      UInt64.toNat_ofNat_of_lt' (show signBit + magnitude < 2 ^ 64 by unfold signBit; omega)
    simp only [magnitudeBits, isNegative, hbits, decide_eq_true_eq, signBit]
    omega

/-- Magnitudes leave the sign bit alone. -/
theorem Magnitude.lt_signBit {magnitude : Nat} {text : List Char} (h : Magnitude magnitude text) :
    magnitude < signBit := by
  have hinfinity : infinityBits < signBit := by decide
  cases h with
  | number _ hnearest => exact Nat.lt_of_le_of_lt hnearest.le_infinity hinfinity
  | infinity => exact hinfinity
  | nan => decide

/-! ## Digits -/

/-- A digit is a digit. -/
theorem isDigit_eq (c : Char) : isDigit c = c.isDigit := by
  rw [Bool.eq_iff_iff]
  simp [isDigit, Decimal.digit?, Char.isDigit, Char.le_def]

/-- The value of digits is the number that they stand for. -/
theorem digitsValue_eq (digits : List Char) : digitsValue digits = numberOf digits := by
  have hstep (value : Nat) (c : Char) : value * 10 + (c.toNat - 48) =
      10 * value + (c.toNat - '0'.toNat) := by rw [Nat.mul_comm]; rfl
  simp only [digitsValue, numberOf, Nat.ofDigitChars_eq_foldl, hstep]

/-- All digits, said in both ways. -/
theorem all_isDigit {digits : List Char} :
    digits.all isDigit = true ↔ ∀ c ∈ digits, c.isDigit := by
  simp only [List.all_eq_true, isDigit_eq]

/-! ## Powers of ten -/

/-- Digits are asked for, at least one, and nothing else. -/
theorem digits_iff {digits : List Char} {n exponent : Int} :
    (if digits.isEmpty ∨ ¬ digits.all isDigit then none else some n) = some exponent ↔
      (digits ≠ [] ∧ ∀ c ∈ digits, c.isDigit) ∧ n = exponent := by
  rw [← all_isDigit]
  cases hempty : digits.isEmpty with
  | true => simp [List.isEmpty_iff.1 hempty]
  | false =>
    have hne : digits ≠ [] := List.isEmpty_eq_false_iff.1 hempty
    cases hall : digits.all isDigit <;> simp [hne]

/-- **A power of ten is read** exactly if it is one. -/
theorem readExponent_eq_some_iff {text : List Char} {exponent : Int} :
    readExponent text = some exponent ↔ Power exponent text := by
  constructor
  · intro h
    cases text with
    | nil =>
      obtain rfl : 0 = exponent := Option.some.inj h
      exact .none
    | cons letter rest =>
      by_cases hletter : letter = 'e' ∨ letter = 'E'
      · simp only [readExponent, if_pos hletter, digitsValue_eq] at h
        split at h
        · next digits =>
          obtain ⟨⟨hne, hdigits⟩, rfl⟩ := digits_iff.1 h
          exact .minus hletter hne hdigits
        · next digits =>
          obtain ⟨⟨hne, hdigits⟩, rfl⟩ := digits_iff.1 h
          exact .plus hletter hne hdigits
        · obtain ⟨⟨hne, hdigits⟩, rfl⟩ := digits_iff.1 h
          exact .unsigned hletter hne hdigits
      · simp [readExponent, hletter] at h
  · rintro (_ | ⟨hletter, hne, hdigits⟩ | ⟨hletter, hne, hdigits⟩ | ⟨hletter, hne, hdigits⟩)
    · rfl
    · simp only [readExponent, if_pos hletter, digitsValue_eq]
      split
      · exact absurd (hdigits _ List.mem_cons_self) (by decide)
      · exact absurd (hdigits _ List.mem_cons_self) (by decide)
      · exact digits_iff.2 ⟨⟨hne, hdigits⟩, rfl⟩
    · simp only [readExponent, if_pos hletter, digitsValue_eq]
      exact digits_iff.2 ⟨⟨hne, hdigits⟩, rfl⟩
    · simp only [readExponent, if_pos hletter, digitsValue_eq]
      exact digits_iff.2 ⟨⟨hne, hdigits⟩, rfl⟩

/-- A power of ten begins with no digit and no point. -/
theorem Power.head {text : List Char} {exponent : Int} (h : Power exponent text) :
    ∀ c, text.head? = some c → isDigit c = false ∧ c ≠ '.' := by
  have hletter {letter : Char} (h : letter = 'e' ∨ letter = 'E') :
      isDigit letter = false ∧ letter ≠ '.' := by
    rcases h with rfl | rfl <;> decide
  cases h with
  | none => exact fun c hc => nomatch hc
  | unsigned h | plus h | minus h =>
    intro c hc
    obtain rfl := Option.some.inj hc
    exact hletter h

/-! ## Literals -/

/-- What is read once the point is found, or found missing. -/
theorem literal_iff {whole places rest : List Char} {literal : Literal} :
    (if whole.isEmpty ∧ places.isEmpty then none
      else (readExponent rest).map fun exponent =>
        (⟨numberOf (whole ++ places), exponent - places.length⟩ : Literal)) = some literal ↔
      whole ++ places ≠ [] ∧ ∃ exponent, Power exponent rest ∧
        ⟨numberOf (whole ++ places), exponent - places.length⟩ = literal := by
  simp only [List.isEmpty_iff, ← List.append_eq_nil_iff, ← readExponent_eq_some_iff]
  by_cases hempty : whole ++ places = []
  · rw [if_pos hempty]
    simp [hempty]
  · rw [if_neg hempty, Option.map_eq_some_iff]
    simp [hempty]

/-- **A literal is read** exactly if it is one. -/
theorem readLiteral_eq_some_iff {text : List Char} {literal : Literal} :
    readLiteral text = some literal ↔ literal.Writes text := by
  have htake {text : List Char} : ∀ c ∈ text.takeWhile isDigit, c.isDigit := fun c hc =>
    isDigit_eq c ▸ List.mem_takeWhile_imp hc
  have hdigit {digits : List Char} (h : ∀ c ∈ digits, c.isDigit) : ∀ c ∈ digits, isDigit c :=
    fun c hc => (isDigit_eq c).trans (h c hc)
  constructor
  · intro h
    have hwhole : ∀ c ∈ text.takeWhile isDigit, c.isDigit := htake
    rw [← List.takeWhile_append_dropWhile (p := isDigit) (l := text)]
    simp only [readLiteral, digitsValue_eq] at h
    generalize text.takeWhile isDigit = whole at h hwhole ⊢
    generalize text.dropWhile isDigit = rest at h ⊢
    split at h
    · next behind =>
      obtain ⟨hne, exponent, hpower, rfl⟩ := literal_iff.1 h
      have hpoint := Literal.Writes.point hne (List.forall_mem_append.2 ⟨hwhole, htake⟩) hpower
      dsimp only at hpoint
      rwa [List.takeWhile_append_dropWhile] at hpoint
    · obtain ⟨hne, exponent, hpower, rfl⟩ := literal_iff.1 h
      simp only [List.append_nil, List.length_nil, Nat.cast_zero, sub_zero] at hne ⊢
      exact .whole hne hwhole hpower
  · rintro (@⟨whole, power, exponent, hne, hdigits, hpower⟩ |
      @⟨whole, places, power, exponent, hne, hdigits, hpower⟩)
    · obtain ⟨hfront, hback⟩ := span_append (hdigit hdigits) fun c hc => (hpower.head c hc).1
      simp only [readLiteral, digitsValue_eq, hfront, hback]
      split
      · exact absurd rfl (hpower.head '.' rfl).2
      · refine literal_iff.2 ⟨by simpa using hne, exponent, hpower, by simp⟩
    · obtain ⟨hwhole, hplaces⟩ := List.forall_mem_append.1 hdigits
      have hpoint : ∀ c, ('.' :: (places ++ power)).head? = some c → isDigit c = false := by
        intro c hc
        obtain rfl := Option.some.inj hc
        decide
      obtain ⟨hfront, hback⟩ := span_append (hdigit hwhole) hpoint
      obtain ⟨hplacesFront, hplacesBack⟩ := span_append (hdigit hplaces)
        fun c hc => (hpower.head c hc).1
      simp only [readLiteral, digitsValue_eq, hfront, hback, hplacesFront, hplacesBack]
      exact literal_iff.2 ⟨hne, exponent, hpower, rfl⟩

/-- A literal begins with a digit or a point. -/
theorem Literal.Writes.head {text : List Char} {literal : Literal} (h : literal.Writes text) :
    ∃ c rest, text = c :: rest ∧ (c.isDigit ∨ c = '.') := by
  have hfirst {digits rest : List Char} (hne : digits ≠ []) (hdigits : ∀ c ∈ digits, c.isDigit) :
      ∃ c more, digits ++ rest = c :: more ∧ (c.isDigit ∨ c = '.') := by
    obtain ⟨c, more, rfl⟩ := List.exists_cons_of_ne_nil hne
    exact ⟨c, more ++ rest, rfl, .inl (hdigits c List.mem_cons_self)⟩
  rcases h with ⟨hne, hdigits, -⟩ | @⟨digits, places, power, exponent, hne, hdigits, -⟩
  · exact hfirst hne hdigits
  · cases digits with
    | nil => exact ⟨'.', _, rfl, .inr rfl⟩
    | cons c rest =>
      exact ⟨c, _, rfl, .inl (hdigits c List.mem_cons_self)⟩

/-! ## Magnitudes -/

/-- A digit stays one in lower case. -/
theorem isDigit_toLower {c : Char} (h : c.isDigit) : c.toLower.isDigit := by
  have hbounds : 48 ≤ c.toNat ∧ c.toNat ≤ 57 := Char.isDigit_iff_toNat.1 h
  have hsame : c.toLower = c := by
    refine dif_neg fun hupper => ?_
    have : 65 ≤ c.toNat := hupper.1
    omega
  rwa [hsame]

/-- The words begin with one of two letters, so none begins like a literal or with
a sign. -/
theorem head_of_word {text : List Char}
    (h : text.map Char.toLower = "inf".toList ∨ text.map Char.toLower = "infinity".toList ∨
      text.map Char.toLower = "nan".toList) :
    ∃ c rest, text = c :: rest ∧ ¬ c.isDigit ∧ c ≠ '.' ∧ c ≠ '+' ∧ c ≠ '-' := by
  cases text with
  | nil => simp at h
  | cons c rest =>
    have hletter : c.toLower = 'i' ∨ c.toLower = 'n' := by
      rcases h with h | h | h
      · exact .inl (List.cons.inj h).1
      · exact .inl (List.cons.inj h).1
      · exact .inr (List.cons.inj h).1
    refine ⟨c, rest, rfl, fun hdigit => ?_, ?_, ?_, ?_⟩
    · have hlower := isDigit_toLower hdigit
      rcases hletter with hc | hc <;> exact absurd (hc ▸ hlower) (by decide)
    all_goals rintro rfl; exact absurd hletter (by decide)

/-- **A magnitude is read** exactly if it is one. -/
theorem readMagnitude_eq_some_iff {text : List Char} {magnitude : Nat} :
    readMagnitude text = some magnitude ↔ Magnitude magnitude text := by
  have hword (word : String) : String.ofList (text.map Char.toLower) = word ↔
      text.map Char.toLower = word.toList := by
    rw [← String.toList_inj, String.toList_ofList]
  simp only [readMagnitude, hword]
  constructor
  · intro h
    cases hliteral : readLiteral text with
    | some literal =>
      rw [hliteral] at h
      obtain rfl := Option.some.inj h
      exact .number (readLiteral_eq_some_iff.1 hliteral) (nearest_spec ..)
    | none =>
      rw [hliteral] at h
      dsimp only at h
      split at h
      · next hinfinity =>
        obtain rfl := Option.some.inj h
        exact .infinity hinfinity
      · split at h
        · next hnan =>
          obtain rfl := Option.some.inj h
          exact .nan hnan
        · cases h
  · have hnone (h : text.map Char.toLower = "inf".toList ∨
        text.map Char.toLower = "infinity".toList ∨ text.map Char.toLower = "nan".toList) :
        readLiteral text = none := by
      obtain ⟨c, rest, rfl, hdigit, hpoint, -⟩ := head_of_word h
      rw [Option.eq_none_iff_forall_ne_some]
      intro literal hliteral
      obtain ⟨first, more, heq, hfirst⟩ := (readLiteral_eq_some_iff.1 hliteral).head
      obtain ⟨rfl, -⟩ := List.cons.inj heq
      rcases hfirst with h | h
      · exact hdigit h
      · exact hpoint h
    rintro (⟨hwrites, hnearest⟩ | ⟨hinfinity⟩ | ⟨hnan⟩)
    · rw [readLiteral_eq_some_iff.2 hwrites]
      exact congrArg some ((nearest_spec ..).unique hnearest)
    · rw [hnone (by tauto)]
      exact if_pos hinfinity
    · rw [hnone (by tauto)]
      dsimp only
      rw [if_neg (by simp [hnan]), if_pos hnan]

/-- A magnitude has no sign. -/
theorem Magnitude.head {text : List Char} {magnitude : Nat} (h : Magnitude magnitude text) :
    ∃ c rest, text = c :: rest ∧ c ≠ '+' ∧ c ≠ '-' := by
  cases h with
  | number hwrites =>
    obtain ⟨c, rest, rfl, hc⟩ := hwrites.head
    refine ⟨c, rest, rfl, ?_, ?_⟩ <;> rintro rfl <;> exact absurd hc (by decide)
  | infinity hword =>
    obtain ⟨c, rest, rfl, -, -, hplus, hminus⟩ := head_of_word (by tauto)
    exact ⟨c, rest, rfl, hplus, hminus⟩
  | nan hword =>
    obtain ⟨c, rest, rfl, -, -, hplus, hminus⟩ := head_of_word (.inr (.inr hword))
    exact ⟨c, rest, rfl, hplus, hminus⟩

/-- **A text is read as a number** exactly if it is a numeral of it. -/
theorem read?_eq_some_iff {text : List Char} {x : Binary64} :
    read? text = some x ↔ Numeral x text := by
  constructor
  · intro h
    unfold read? at h
    split at h
    · obtain ⟨magnitude, hread, rfl⟩ := Option.map_eq_some_iff.1 h
      exact .minus (readMagnitude_eq_some_iff.1 hread)
    · obtain ⟨magnitude, hread, rfl⟩ := Option.map_eq_some_iff.1 h
      exact .plus (readMagnitude_eq_some_iff.1 hread)
    · obtain ⟨magnitude, hread, rfl⟩ := Option.map_eq_some_iff.1 h
      exact .unsigned (readMagnitude_eq_some_iff.1 hread)
  · rintro (hmagnitude | hmagnitude | hmagnitude)
    · obtain ⟨c, rest, rfl, hplus, hminus⟩ := hmagnitude.head
      rw [← readMagnitude_eq_some_iff] at hmagnitude
      unfold read?
      split
      · next heq => exact absurd (List.cons.inj heq).1 hminus
      · next heq => exact absurd (List.cons.inj heq).1 hplus
      · rw [hmagnitude]
        rfl
    · rw [read?, readMagnitude_eq_some_iff.2 hmagnitude]
      rfl
    · rw [read?, readMagnitude_eq_some_iff.2 hmagnitude]
      rfl

/-- **A number is negative** if it is written with a minus sign, zero included. -/
theorem Numeral.isNegative_iff {text : List Char} {x : Binary64} (h : Numeral x text) :
    x.isNegative = true ↔ text.head? = some '-' := by
  cases h with
  | unsigned h =>
    obtain ⟨c, rest, rfl, -, hminus⟩ := h.head
    simp [(ofMagnitude_spec h.lt_signBit _).2, hminus]
  | plus h | minus h => simp [(ofMagnitude_spec h.lt_signBit _).2]

example : read? "-0.1e+1".toList = some ⟨0xBFF0000000000000⟩ := by decide +kernel

end Binary64

end RedisClient
