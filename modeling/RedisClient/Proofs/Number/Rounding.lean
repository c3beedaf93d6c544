import Mathlib.Algebra.Order.Field.Power
import Mathlib.Data.Nat.Cast.Order.Field
import Mathlib.Data.Rat.Cast.Order
import Mathlib.Tactic.FieldSimp
import Mathlib.Tactic.Linarith
import Mathlib.Tactic.NormNum
import Mathlib.Tactic.Positivity
import Mathlib.Tactic.Ring
import RedisClient.Number.Binary64

/-!
# Rounding to binary64

The patterns of one sign count up through the numbers that they stand for
(`Binary64.value`), and the pattern of infinity stands where the next number
would be, at two to the 1024. A number rounds to the pattern that is nearest to
it, and to the even one of two that are equally near (`Binary64.Nearest`), overflow
to infinity included. There is one such pattern
(`Binary64.Nearest.unique`), and for a decimal number it is the one that
`Binary64.nearest` gives (`Binary64.nearest_spec`).
-/

namespace RedisClient

namespace Binary64

/-- **What a pattern stands for**: its significand times its power of two. The
pattern of infinity stands where the next number would be. -/
def value (magnitude : Nat) : ℚ := (parts magnitude).1 * 2 ^ (parts magnitude).2

/-- **The pattern that a number rounds to.** None is nearer, and if another one is
as near, this one is even. -/
structure Nearest (x : ℚ) (magnitude : Nat) : Prop where
  /-- It is finite or infinity. -/
  le_infinity : magnitude ≤ infinityBits
  /-- No other pattern is nearer. -/
  least : ∀ other ≤ infinityBits, |x - value magnitude| ≤ |x - value other|
  /-- If another one is as near, this one is even. -/
  even : ∀ other ≤ infinityBits, other ≠ magnitude →
    |x - value other| = |x - value magnitude| → magnitude % 2 = 0

/-! ## The patterns as a grid -/

/-- **The patterns of one exponent** count through the multiples of its power of
two, and the first one of the next exponent goes on with them. -/
theorem value_grid (place s : Nat) (hle : s ≤ 2 * fractions)
    (hnormal : place = 0 ∨ fractions ≤ s) :
    value (place * fractions + s) = s * 2 ^ ((place : ℤ) - 1074) := by
  unfold fractions at hle hnormal
  rcases Nat.lt_or_ge s 0x10000000000000 with hsmall | hlarge
  · obtain rfl : place = 0 := by omega
    have hparts : parts (0 * fractions + s) = (s, -1074) := by
      have hexponent : (0 * fractions + s) / fractions = 0 := by unfold fractions; omega
      have hfraction : (0 * fractions + s) % fractions = s := by unfold fractions; omega
      simp only [parts, hexponent, hfraction, if_true]
    rw [value, hparts]
    simp
  · rcases Nat.lt_or_ge s 0x20000000000000 with hbelow | htop
    · have hparts : parts (place * fractions + s) = (s, (place : ℤ) - 1074) := by
        have hexponent : (place * fractions + s) / fractions = place + 1 := by
          unfold fractions; omega
        have hfraction : (place * fractions + s) % fractions = s - fractions := by
          unfold fractions; omega
        have hsum : fractions + (s - fractions) = s := by unfold fractions; omega
        simp only [parts, hexponent, hfraction, hsum, Nat.succ_ne_zero, if_false, Prod.mk.injEq,
          true_and]
        omega
      rw [value, hparts]
    · obtain rfl : s = 2 * fractions := by unfold fractions; omega
      have hparts : parts (place * fractions + 2 * fractions) =
          (fractions, (place : ℤ) - 1074 + 1) := by
        have hexponent : (place * fractions + 2 * fractions) / fractions = place + 2 := by
          unfold fractions; omega
        have hfraction : (place * fractions + 2 * fractions) % fractions = 0 := by
          unfold fractions; omega
        simp only [parts, hexponent, hfraction, Nat.succ_ne_zero, if_false, Nat.add_zero,
          Prod.mk.injEq, true_and]
        omega
      rw [value, hparts, zpow_add_one₀ two_ne_zero]
      push_cast
      ring

/-- Every pattern has its place on the grid, and so has the next one. -/
theorem exists_grid (k : Nat) :
    ∃ place s, k = place * fractions + s ∧ s < 2 * fractions ∧ (place = 0 ∨ fractions ≤ s) := by
  refine ⟨k / fractions - 1, k - (k / fractions - 1) * fractions, ?_, ?_, ?_⟩ <;>
    · unfold fractions; omega

/-- **The patterns count upwards.** -/
theorem value_strictMono : StrictMono value := by
  refine strictMono_nat_of_lt_succ fun k => ?_
  obtain ⟨place, s, rfl, hs, hnormal⟩ := exists_grid k
  have hnext := value_grid place (s + 1) (by omega) (by omega)
  rw [value_grid place s (by omega) hnormal, Nat.add_assoc, hnext]
  have hpower : (0 : ℚ) < 2 ^ ((place : ℤ) - 1074) := by positivity
  push_cast
  linarith

/-! ## The nearest pattern -/

namespace Nearest

variable {x : ℚ} {k : Nat}

/-- **Of the two patterns around a number** the lower one is nearest if it is no
farther than the upper one. -/
theorem of_lower (hk : k ≤ infinityBits) (hlow : value k ≤ x)
    (hnear : x - value k ≤ value (k + 1) - x)
    (heven : x - value k = value (k + 1) - x → k % 2 = 0) : Nearest x k where
  le_infinity := hk
  least other _ := by
    rw [abs_of_nonneg (sub_nonneg.2 hlow)]
    rcases Nat.lt_or_ge k other with habove | hbelow
    · have hnext := value_strictMono.monotone (Nat.succ_le_of_lt habove)
      exact le_abs.2 (.inr (by linarith))
    · have hother := value_strictMono.monotone hbelow
      exact le_abs.2 (.inl (by linarith))
  even other _ hne heq := by
    rw [abs_of_nonneg (sub_nonneg.2 hlow)] at heq
    rcases Nat.lt_or_ge k other with habove | hbelow
    · have hnext := value_strictMono.monotone (Nat.succ_le_of_lt habove)
      rw [abs_of_nonpos (by linarith)] at heq
      exact heven (by linarith)
    · have hother := value_strictMono (Nat.lt_of_le_of_ne hbelow hne)
      rw [abs_of_nonneg (by linarith)] at heq
      linarith

/-- The upper one is nearest if it is no farther than the lower one. -/
theorem of_upper (hk : k + 1 ≤ infinityBits) (hhigh : x ≤ value (k + 1))
    (hnear : value (k + 1) - x ≤ x - value k)
    (heven : value (k + 1) - x = x - value k → (k + 1) % 2 = 0) : Nearest x (k + 1) where
  le_infinity := hk
  least other _ := by
    rw [abs_of_nonpos (sub_nonpos.2 hhigh)]
    rcases Nat.lt_or_ge k other with habove | hbelow
    · have hnext := value_strictMono.monotone (Nat.succ_le_of_lt habove)
      exact le_abs.2 (.inr (by linarith))
    · have hother := value_strictMono.monotone hbelow
      exact le_abs.2 (.inl (by linarith))
  even other _ hne heq := by
    rw [abs_of_nonpos (sub_nonpos.2 hhigh)] at heq
    rcases Nat.lt_or_ge k other with habove | hbelow
    · have hnext := value_strictMono (Nat.lt_of_le_of_ne habove hne.symm)
      rw [abs_of_nonpos (by linarith)] at heq
      linarith
    · have hother := value_strictMono.monotone hbelow
      rw [abs_of_nonneg (by linarith)] at heq
      exact heven (by linarith)

/-- **Beyond the finite patterns** infinity is nearest. -/
theorem of_infinity (h : value infinityBits ≤ x) : Nearest x infinityBits where
  le_infinity := Nat.le_refl _
  least other hother := by
    have hmono := value_strictMono.monotone hother
    rw [abs_of_nonneg (sub_nonneg.2 h), abs_of_nonneg (by linarith)]
    linarith
  even other hother hne heq := by
    have hmono := value_strictMono (Nat.lt_of_le_of_ne hother hne)
    rw [abs_of_nonneg (sub_nonneg.2 h), abs_of_nonneg (by linarith)] at heq
    linarith

/-- If a higher pattern is as near, there is none between and both are even. -/
theorem not_lt {other : Nat} (h : Nearest x k) (hother : Nearest x other) : ¬ k < other := by
  intro hlt
  have heq : |x - value other| = |x - value k| :=
    le_antisymm (hother.least k h.le_infinity) (h.least other hother.le_infinity)
  have heven := h.even other hother.le_infinity (by omega) heq
  have hotherEven := hother.even k h.le_infinity (by omega) heq.symm
  -- both are even, so that there is one between them, and it is nearer
  have hnext : k + 1 < other := by omega
  have hbelow : value k < value (k + 1) := value_strictMono (Nat.lt_succ_self k)
  have habove : value (k + 1) < value other := value_strictMono hnext
  have hleast := h.least (k + 1) (Nat.le_trans hnext.le hother.le_infinity)
  rcases abs_cases (x - value k) with ⟨hk, -⟩ | ⟨hk, hsign⟩ <;>
    rcases abs_cases (x - value other) with ⟨hfar, hsign'⟩ | ⟨hfar, -⟩ <;>
      rcases abs_cases (x - value (k + 1)) with ⟨hmid, -⟩ | ⟨hmid, -⟩ <;> linarith

/-- **A number rounds to one pattern only.** -/
theorem unique {other : Nat} (h : Nearest x k) (hother : Nearest x other) : k = other :=
  Nat.le_antisymm (Nat.le_of_not_lt (hother.not_lt h)) (Nat.le_of_not_lt (h.not_lt hother))

end Nearest

/-! ## Fractions -/

/-- Rounding a fraction to a natural number gives one of the two around it, the
nearer one or else the even one. -/
theorem roundDiv_cases (num : Nat) {den : Nat} (hden : 0 < den) :
    let rest : ℚ := (num : ℚ) / den - (num / den : Nat)
    (0 ≤ rest ∧ rest < 1) ∧
      (roundDiv num den = num / den ∧ rest ≤ 1 / 2 ∧ (rest = 1 / 2 → num / den % 2 = 0) ∨
        roundDiv num den = num / den + 1 ∧ 1 / 2 ≤ rest ∧ (rest = 1 / 2 → num / den % 2 = 1)) := by
  intro rest
  have hpos : (0 : ℚ) < den := by exact_mod_cast hden
  have hrest : rest = (num % den : Nat) / den := by
    have hsum : (num : ℚ) = den * (num / den : Nat) + (num % den : Nat) := by
      exact_mod_cast (Nat.div_add_mod num den).symm
    rw [eq_div_iff hpos.ne', sub_mul, div_mul_cancel₀ _ hpos.ne']
    linarith
  -- twice the remainder is held against the denominator
  have hlt : rest < 1 / 2 ↔ 2 * (num % den) < den := by
    rw [hrest, div_lt_iff₀ hpos, ← Nat.cast_lt (α := ℚ)]
    push_cast
    constructor <;> intro h <;> linarith
  have hgt : 1 / 2 < rest ↔ den < 2 * (num % den) := by
    rw [hrest, lt_div_iff₀ hpos, ← Nat.cast_lt (α := ℚ)]
    push_cast
    constructor <;> intro h <;> linarith
  have hone : rest < 1 := by
    rw [hrest, div_lt_one hpos]
    exact_mod_cast Nat.mod_lt num hden
  refine ⟨⟨by rw [hrest]; positivity, hone⟩, ?_⟩
  unfold roundDiv
  rcases Nat.lt_trichotomy (2 * (num % den)) den with hless | hequal | hmore
  · rw [if_pos hless]
    exact .inl ⟨rfl, (hlt.2 hless).le, fun heq => absurd (hlt.2 hless) heq.not_lt⟩
  · have hhalf : rest = 1 / 2 := le_antisymm
      (not_lt.1 fun h => by have := hgt.1 h; omega) (not_lt.1 fun h => by have := hlt.1 h; omega)
    rw [if_neg (by omega), if_neg (by omega)]
    by_cases heven : num / den % 2 = 0
    · rw [if_pos heven]
      exact .inl ⟨rfl, hhalf.le, fun _ => heven⟩
    · rw [if_neg heven]
      exact .inr ⟨rfl, hhalf.ge, fun _ => by omega⟩
  · rw [if_neg (by omega), if_pos hmore]
    exact .inr ⟨rfl, (hgt.2 hmore).le, fun heq => absurd (hgt.2 hmore) heq.not_gt⟩

/-- A fraction is scaled down by a power of two. -/
theorem scaleDown_spec (num : Nat) {den : Nat} (hden : 0 < den) (exponent : Int) :
    0 < (scaleDown num den exponent).2 ∧
      ((scaleDown num den exponent).1 : ℚ) / (scaleDown num den exponent).2 =
        num / den / 2 ^ exponent := by
  have hpower (n : Nat) : ((twoTo n : Nat) : ℚ) = 2 ^ n := by
    rw [twoTo, Nat.pow_eq, Nat.cast_pow, Nat.cast_ofNat]
  unfold scaleDown
  split
  · next hpos =>
    refine ⟨Nat.mul_pos hden (Nat.pow_pos (by decide)), ?_⟩
    push_cast
    rw [hpower, ← zpow_natCast, Int.toNat_of_nonneg hpos, div_div]
  · next hneg =>
    refine ⟨hden, ?_⟩
    push_cast
    rw [hpower, ← zpow_natCast, Int.toNat_of_nonneg (by omega), zpow_neg]
    field_simp

/-- The difference of the binary logarithms is that of the fraction, or one more. -/
theorem log2_fraction {num den : Nat} (hnum : 0 < num) (hden : 0 < den) :
    (2 : ℚ) ^ ((num.log2 : ℤ) - den.log2 - 1) < num / den ∧
      (num : ℚ) / den < 2 ^ ((num.log2 : ℤ) - den.log2 + 1) := by
  have hpos : (0 : ℚ) < den := by exact_mod_cast hden
  have hnumLow : (2 : ℚ) ^ num.log2 ≤ num := by exact_mod_cast Nat.log2_self_le hnum.ne'
  have hnumHigh : (num : ℚ) < 2 ^ (num.log2 + 1) := by exact_mod_cast Nat.lt_log2_self
  have hdenLow : (2 : ℚ) ^ den.log2 ≤ den := by exact_mod_cast Nat.log2_self_le hden.ne'
  have hdenHigh : (den : ℚ) < 2 ^ (den.log2 + 1) := by exact_mod_cast Nat.lt_log2_self
  constructor
  · rw [lt_div_iff₀ hpos]
    calc (2 : ℚ) ^ ((num.log2 : ℤ) - den.log2 - 1) * den
        < 2 ^ ((num.log2 : ℤ) - den.log2 - 1) * 2 ^ (den.log2 + 1) := by gcongr
      _ = 2 ^ num.log2 := by
        rw [← zpow_natCast, ← zpow_natCast, ← zpow_add₀ two_ne_zero]
        congr 1
        push_cast
        ring
      _ ≤ num := hnumLow
  · rw [div_lt_iff₀ hpos]
    calc (num : ℚ) < 2 ^ (num.log2 + 1) := hnumHigh
      _ = 2 ^ ((num.log2 : ℤ) - den.log2 + 1) * 2 ^ den.log2 := by
        rw [← zpow_natCast, ← zpow_natCast, ← zpow_add₀ two_ne_zero]
        congr 1
        push_cast
        ring
      _ ≤ 2 ^ ((num.log2 : ℤ) - den.log2 + 1) * den := by gcongr

/-- **The exponent of the nearest pattern** gives the significand 53 bits, or it is
the least one. -/
theorem exponentOf_spec {num den : Nat} (hnum : 0 < num) (hden : 0 < den) :
    -1074 ≤ exponentOf num den ∧
      (num : ℚ) / den / 2 ^ exponentOf num den < 2 * fractions ∧
      (exponentOf num den = -1074 ∨ (fractions : ℚ) ≤ num / den / 2 ^ exponentOf num den) := by
  have hfractions : (fractions : ℚ) = 2 ^ (52 : ℤ) := by norm_num [fractions]
  obtain ⟨hlow, hhigh⟩ := log2_fraction hnum hden
  generalize hguess : (num.log2 : ℤ) - den.log2 - 52 = guess
  have hpower (exponent : ℤ) : (0 : ℚ) < 2 ^ exponent := by positivity
  -- the guess gives 52 or 53 bits, and one less gives one bit more
  have hguessLow : (fractions : ℚ) < num / den / 2 ^ (guess - 1) := by
    rw [lt_div_iff₀ (hpower _), hfractions, ← zpow_add₀ two_ne_zero]
    refine lt_of_eq_of_lt ?_ hlow
    congr 1
    omega
  have hguessHigh : (num : ℚ) / den / 2 ^ guess < 2 * fractions := by
    rw [div_lt_iff₀ (hpower _), hfractions, ← zpow_one_add₀ two_ne_zero, ← zpow_add₀ two_ne_zero]
    refine lt_of_lt_of_eq hhigh ?_
    congr 1
    omega
  obtain ⟨hscaled, hvalue⟩ := scaleDown_spec num hden guess
  have hcompare : (scaleDown num den guess).1 / (scaleDown num den guess).2 < fractions ↔
      (num : ℚ) / den / 2 ^ guess < fractions := by
    rw [Nat.div_lt_iff_lt_mul hscaled, ← hvalue, div_lt_iff₀ (by exact_mod_cast hscaled)]
    exact_mod_cast Iff.rfl
  -- with the exponent that is chosen before the least one is respected
  obtain ⟨chosen, hchosen, hfits, hfull⟩ : ∃ chosen, exponentOf num den = max (-1074) chosen ∧
      (num : ℚ) / den / 2 ^ chosen < 2 * fractions ∧
      (fractions : ℚ) ≤ num / den / 2 ^ chosen := by
    by_cases hless : (scaleDown num den guess).1 / (scaleDown num den guess).2 < fractions
    · refine ⟨guess - 1, ?_, ?_, hguessLow.le⟩
      · simp only [exponentOf, hguess, if_pos hless]
      · rw [zpow_sub_one₀ two_ne_zero]
        have := hcompare.1 hless
        calc (num : ℚ) / den / (2 ^ guess * 2⁻¹) = 2 * (num / den / 2 ^ guess) := by field_simp
          _ < 2 * fractions := by linarith
    · refine ⟨guess, ?_, hguessHigh, not_lt.1 (mt hcompare.2 hless)⟩
      simp only [exponentOf, hguess, if_neg hless]
  rw [hchosen]
  refine ⟨le_max_left _ _, ?_, ?_⟩
  · refine lt_of_le_of_lt ?_ hfits
    have hx : (0 : ℚ) ≤ num / den := by positivity
    exact div_le_div_of_nonneg_left hx (hpower _)
      (zpow_le_zpow_right₀ one_le_two (le_max_right _ _))
  · rcases le_total chosen (-1074) with hleast | habove
    · exact .inl (max_eq_left hleast)
    · rw [max_eq_right habove]
      exact .inr hfull

/-- **The two patterns around a positive fraction**, one unit apart, and which one of
them is taken, by the part of the unit that the fraction has gone. -/
theorem exists_below {num den : Nat} (hnum : 0 < num) (hden : 0 < den) :
    ∃ (below : Nat) (rest unit : ℚ), 0 < unit ∧ 0 ≤ rest ∧ rest < 1 ∧
      (num : ℚ) / den - value below = rest * unit ∧
      value (below + 1) - num / den = (1 - rest) * unit ∧
      (nearestFraction num den = min infinityBits below ∧
          rest ≤ 1 / 2 ∧ (rest = 1 / 2 → below % 2 = 0) ∨
        nearestFraction num den = min infinityBits (below + 1) ∧
          1 / 2 ≤ rest ∧ (rest = 1 / 2 → below % 2 = 1)) := by
  obtain ⟨hleast, hfits, hfull⟩ := exponentOf_spec hnum hden
  generalize hexponent : exponentOf num den = exponent at hleast hfits hfull
  obtain ⟨hscaled, hvalue⟩ := scaleDown_spec num hden exponent
  rcases hscale : scaleDown num den exponent with ⟨n, d⟩
  rw [hscale] at hscaled hvalue
  dsimp only at hscaled hvalue
  have hpower : (0 : ℚ) < 2 ^ exponent := by positivity
  have hpos : (0 : ℚ) < d := by exact_mod_cast hscaled
  obtain ⟨place, hplace⟩ : ∃ place : ℕ, exponent + 1074 = place := ⟨_, (Int.toNat_of_nonneg
    (by linarith)).symm⟩
  have hgrid : (place : ℤ) - 1074 = exponent := by linarith
  rw [← hvalue] at hfits hfull
  have hbelow : n / d < 2 * fractions := by
    rw [Nat.div_lt_iff_lt_mul hscaled]
    rw [div_lt_iff₀ hpos] at hfits
    exact_mod_cast hfits
  have hnormal : place = 0 ∨ fractions ≤ n / d := by
    rcases hfull with heq | hfull
    · exact .inl (by omega)
    · rw [le_div_iff₀ hpos] at hfull
      exact .inr ((Nat.le_div_iff_mul_le hscaled).2 (by exact_mod_cast hfull))
  have hx : (num : ℚ) / den = n / d * 2 ^ exponent := by
    rw [hvalue, div_mul_cancel₀ _ hpower.ne']
  have hlow : value (place * fractions + n / d) = (n / d : Nat) * 2 ^ exponent := by
    rw [value_grid _ _ hbelow.le hnormal, hgrid]
  have hhigh : value (place * fractions + n / d + 1) = ((n / d : Nat) + 1) * 2 ^ exponent := by
    rw [Nat.add_assoc, value_grid _ _ hbelow (by omega), hgrid]
    push_cast
    ring
  have hparity : (place * fractions + n / d) % 2 = n / d % 2 := by unfold fractions; omega
  have hnearest : nearestFraction num den =
      min infinityBits (place * fractions + roundDiv n d) := by
    simp only [nearestFraction, hexponent, hscale, hplace, Int.toNat_natCast]
  obtain ⟨⟨hrest, hone⟩, hround⟩ := roundDiv_cases n hscaled
  refine ⟨place * fractions + n / d, (n : ℚ) / d - (n / d : Nat), 2 ^ exponent, hpower, hrest, hone,
    by rw [hx, hlow]; ring, by rw [hx, hhigh]; ring, ?_⟩
  rw [hnearest, hparity]
  rcases hround with ⟨hdown, hhalf⟩ | ⟨hup, hhalf⟩
  · exact .inl ⟨by rw [hdown], hhalf⟩
  · exact .inr ⟨by rw [hup, ← Nat.add_assoc], hhalf⟩

/-- **A positive fraction** is rounded to the nearest pattern. -/
theorem nearestFraction_spec {num den : Nat} (hnum : 0 < num) (hden : 0 < den) :
    Nearest (num / den) (nearestFraction num den) := by
  obtain ⟨below, rest, unit, hunit, hrest, hone, hlow, hhigh, hround⟩ := exists_below hnum hden
  have hgone : 0 ≤ rest * unit := mul_nonneg hrest hunit.le
  have hmissing : 0 < (1 - rest) * unit := mul_pos (by linarith) hunit
  -- with the lower pattern at infinity or above, there is nothing to choose from
  have hbeyond (h : infinityBits ≤ below) : Nearest (num / den : ℚ) infinityBits :=
    .of_infinity (by linarith [value_strictMono.monotone h])
  rcases hround with ⟨htaken, hhalf, heven⟩ | ⟨htaken, hhalf, hodd⟩
  · rw [htaken]
    rcases Nat.le_total below infinityBits with hfinite | h
    · rw [Nat.min_eq_right hfinite]
      refine .of_lower hfinite (by linarith) (by nlinarith) fun htie => heven ?_
      have hequal : rest * unit = (1 - rest) * unit := by linarith
      linarith [mul_right_cancel₀ hunit.ne' hequal]
    · rw [Nat.min_eq_left h]
      exact hbeyond h
  · rw [htaken]
    rcases Nat.lt_or_ge below infinityBits with hfinite | h
    · rw [Nat.min_eq_right hfinite]
      refine .of_upper hfinite (by linarith) (by nlinarith) fun htie => ?_
      have hequal : (1 - rest) * unit = rest * unit := by linarith
      have := hodd (by linarith [mul_right_cancel₀ hunit.ne' hequal])
      omega
    · rw [Nat.min_eq_left (by omega)]
      exact hbeyond h

/-! ## Decimal numbers -/

/-- A power of ten as a number. -/
theorem cast_tenTo (n : Nat) : ((tenTo n : Nat) : ℚ) = 10 ^ n := by
  rw [tenTo, Nat.pow_eq, Nat.cast_pow, Nat.cast_ofNat]

/-- Zero is the first pattern. -/
theorem value_zero : value 0 = 0 := by
  have h := value_grid 0 0 (by omega) (.inl rfl)
  simpa using h

/-- The least positive number is the next one. -/
theorem value_one : value 1 = 2 ^ (-1074 : ℤ) := by
  have h := value_grid 0 1 (by unfold fractions; omega) (.inl rfl)
  simpa using h

/-- Infinity stands at two to the 1024. -/
theorem value_infinityBits : value infinityBits = 2 ^ (1024 : ℤ) := by
  have h := value_grid 2046 fractions (by omega) (.inr (Nat.le_refl _))
  have hbits : 2046 * fractions + fractions = infinityBits := by unfold infinityBits; omega
  have hfractions : (fractions : ℚ) = 2 ^ (52 : ℤ) := by norm_num [fractions]
  rw [← hbits, h, hfractions, ← zpow_add₀ two_ne_zero]
  norm_num

/-- A number below half of the least positive one rounds to zero. -/
theorem Nearest.of_tiny {x : ℚ} (hnonneg : 0 ≤ x) (hx : x < 2 ^ (-1075 : ℤ)) : Nearest x 0 := by
  have hhalf : (2 : ℚ) ^ (-1074 : ℤ) = 2 * 2 ^ (-1075 : ℤ) := by
    rw [← zpow_one_add₀ two_ne_zero]
    norm_num
  refine .of_lower (Nat.zero_le _) (by rwa [value_zero]) ?_ fun _ => rfl
  rw [Nat.zero_add, value_zero, value_one, hhalf]
  linarith

/-- A number has its decimal size. -/
theorem size_spec {n : Nat} (hn : 0 < n) :
    (10 : ℚ) ^ (((Decimal.ofNat n).length : ℤ) - 1) ≤ n ∧
      (n : ℚ) < 10 ^ ((Decimal.ofNat n).length : ℤ) := by
  have hpos : 0 < (Decimal.ofNat n).length := Nat.length_toDigits_pos
  constructor
  · obtain ⟨k, hk⟩ : ∃ k, (Decimal.ofNat n).length = k + 1 := ⟨_, (Nat.succ_pred hpos.ne').symm⟩
    have hpower : 10 ^ k ≤ n := by
      rcases Nat.eq_zero_or_pos k with rfl | hkpos
      · exact hn
      · refine Nat.le_of_not_lt fun hlt => ?_
        have hle : (Decimal.ofNat n).length ≤ k :=
          (Nat.length_toDigits_le_iff (by decide) hkpos).2 hlt
        omega
    have hexponent : ((Decimal.ofNat n).length : ℤ) - 1 = k := by omega
    rw [hexponent, zpow_natCast]
    exact_mod_cast hpower
  · rw [zpow_natCast]
    exact_mod_cast (Nat.length_toDigits_le_iff (by decide) hpos).1 (Nat.le_refl _)

/-- **A decimal number is rounded to the nearest pattern**, however large or small
its exponent is. -/
theorem nearest_spec (digits : Nat) (exponent : Int) :
    Nearest (digits * 10 ^ exponent) (nearest digits exponent) := by
  have hpower (n : ℤ) : (0 : ℚ) < 10 ^ n := by positivity
  unfold nearest
  dsimp only
  rcases Nat.eq_zero_or_pos digits with rfl | hdigits
  · rw [if_pos rfl, Nat.cast_zero, zero_mul]
    exact .of_tiny le_rfl (by positivity)
  · obtain ⟨hlow, hhigh⟩ := size_spec hdigits
    rw [if_neg hdigits.ne']
    generalize ((Decimal.ofNat digits).length : ℤ) = size at hlow hhigh
    by_cases hhuge : 310 < exponent + size
    · rw [if_pos hhuge]
      refine .of_infinity ?_
      calc value infinityBits = 2 ^ (1024 : ℤ) := value_infinityBits
        _ ≤ 10 ^ (310 : ℤ) := by
          have hbound : 2 ^ 1024 ≤ 10 ^ 310 := by decide +kernel
          exact_mod_cast hbound
        _ ≤ 10 ^ (size - 1 + exponent) :=
          zpow_le_zpow_right₀ (by norm_num) (by omega)
        _ = 10 ^ (size - 1) * 10 ^ exponent := zpow_add₀ (by norm_num) _ _
        _ ≤ digits * 10 ^ exponent := mul_le_mul_of_nonneg_right hlow (hpower exponent).le
    · rw [if_neg hhuge]
      by_cases htiny : exponent + size < -330
      · rw [if_pos htiny]
        refine .of_tiny (mul_nonneg (Nat.cast_nonneg _) (hpower _).le) ?_
        calc (digits : ℚ) * 10 ^ exponent < 10 ^ size * 10 ^ exponent :=
            mul_lt_mul_of_pos_right hhigh (hpower exponent)
          _ = 10 ^ (size + exponent) := (zpow_add₀ (by norm_num) _ _).symm
          _ ≤ 10 ^ (-331 : ℤ) := zpow_le_zpow_right₀ (by norm_num) (by omega)
          _ < 2 ^ (-1075 : ℤ) := by
            have hbound : 2 ^ 1075 < 10 ^ 331 := by decide +kernel
            rw [zpow_neg, zpow_neg]
            exact inv_strictAnti₀ (by positivity) (by exact_mod_cast hbound)
      · rw [if_neg htiny]
        by_cases hwhole : 0 ≤ exponent
        · rw [if_pos hwhole]
          have hnum : 0 < digits * tenTo exponent.toNat :=
            Nat.mul_pos hdigits (Nat.pow_pos (by decide))
          have h := nearestFraction_spec hnum Nat.one_pos
          have hx : ((digits * tenTo exponent.toNat : Nat) : ℚ) / (1 : Nat) =
              digits * 10 ^ exponent := by
            rw [Nat.cast_one, div_one, Nat.cast_mul, cast_tenTo, ← zpow_natCast,
              Int.toNat_of_nonneg hwhole]
          rwa [hx] at h
        · rw [if_neg hwhole]
          have hden : 0 < tenTo (-exponent).toNat := Nat.pow_pos (by decide)
          have h := nearestFraction_spec hdigits hden
          have hx : (digits : ℚ) / (tenTo (-exponent).toNat : Nat) = digits * 10 ^ exponent := by
            rw [cast_tenTo, ← zpow_natCast, Int.toNat_of_nonneg (by omega), zpow_neg,
              div_inv_eq_mul]
          rwa [hx] at h

end Binary64

end RedisClient
