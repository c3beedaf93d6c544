import RedisClient.Number.Decimal

/-!
# Binary floating-point numbers

Scores are binary64 numbers, held as their bit patterns so that every
operation is exact arithmetic on natural numbers. A finite number is a
significand times a power of two. `nearest` rounds a decimal number to the
nearest pattern, a tie to the even one, and `shortest` gives the decimal number
with the fewest digits that rounds back.
-/

namespace RedisClient

/-- A binary64 number, as its bits. -/
structure Binary64 where
  /-- Sign, then 11 bits of exponent, then 52 bits of fraction. -/
  bits : UInt64
  deriving DecidableEq, Repr, Inhabited

namespace Binary64

/-- A power of two. -/
def twoTo (exponent : Nat) : Nat := Nat.pow 2 exponent

/-- A power of ten. -/
def tenTo (exponent : Nat) : Nat := Nat.pow 10 exponent

/-- The number of patterns of one sign and one exponent. -/
def fractions : Nat := 0x10000000000000

/-- The number of patterns of one sign. -/
def signBit : Nat := 0x8000000000000000

/-- The number of patterns of one sign that are finite. -/
def infinityBits : Nat := 0x7FF * fractions

/-- The pattern without its sign. -/
def magnitudeBits (x : Binary64) : Nat := x.bits.toNat % signBit

/-- Whether the sign bit is set. -/
def isNegative (x : Binary64) : Bool := signBit ≤ x.bits.toNat

/-- Whether this is no number. -/
def isNaN (x : Binary64) : Bool := infinityBits < x.magnitudeBits

/-- Whether this is one of the infinities. -/
def isInfinite (x : Binary64) : Bool := x.magnitudeBits == infinityBits

/-- The pattern of a sign and a magnitude. -/
def ofMagnitude (negative : Bool) (magnitude : Nat) : Binary64 :=
  ⟨.ofNat (if negative then signBit + magnitude else magnitude)⟩

/-- An infinity. -/
def infinity (negative : Bool) : Binary64 := ofMagnitude negative infinityBits

/-- The quiet pattern that is no number. -/
def nan : Binary64 := ofMagnitude false (infinityBits + fractions / 2)

/-- The significand and the exponent of a finite magnitude: it is the first
times two to the second. -/
def parts (magnitude : Nat) : Nat × Int :=
  let exponent : Nat := magnitude / fractions
  let fraction : Nat := magnitude % fractions
  if exponent = 0 then (fraction, -1074) else (fractions + fraction, (exponent : Int) - 1075)

/-! ## From decimal -/

/-- `num / den` rounded to a natural number, a tie to the even one. -/
def roundDiv (num den : Nat) : Nat :=
  let q := num / den
  let twice := 2 * (num % den)
  if twice < den then q
  else if den < twice then q + 1
  else if q % 2 = 0 then q else q + 1

/-- `num / den / 2 ^ exponent` as a fraction. -/
def scaleDown (num den : Nat) (exponent : Int) : Nat × Nat :=
  if 0 ≤ exponent then (num, den * twoTo exponent.toNat) else (num * twoTo (-exponent).toNat, den)

/-- The exponent of the pattern nearest to the positive fraction `num / den`:
the one that gives the significand 53 bits, or the least one there is. -/
def exponentOf (num den : Nat) : Int :=
  let guess : Int := (Nat.log2 num : Int) - Nat.log2 den - 52
  let (n, d) := scaleDown num den guess
  max (-1074) (if n / d < fractions then guess - 1 else guess)

/-- The magnitude nearest to the positive fraction `num / den`. The patterns
count up through the significands of one exponent and on to the next, so a
significand that rounds up to 54 bits lands on the right pattern by itself. -/
def nearestFraction (num den : Nat) : Nat :=
  let exponent := exponentOf num den
  let (n, d) := scaleDown num den exponent
  min infinityBits ((exponent + 1074).toNat * fractions + roundDiv n d)

/-- The magnitude nearest to `digits * 10 ^ exponent`. Powers of ten far outside
the range are decided without computing them. -/
def nearest (digits : Nat) (exponent : Int) : Nat :=
  let size : Int := (Decimal.ofNat digits).length
  if digits = 0 then 0
  else if 310 < exponent + size then infinityBits
  else if exponent + size < -330 then 0
  else if 0 ≤ exponent then nearestFraction (digits * tenTo exponent.toNat) 1
  else nearestFraction digits (tenTo (-exponent).toNat)

/-! ## To decimal -/

/-- The multiple of `10 ^ place` that stands for `m * 2 ^ q` on this decimal
grid, if one of its two neighbours there lies in the interval that rounds to it:
the nearer one, and the upper one if both are equally near. The interval
reaches half a step up and half a step down, a quarter step down at the foot of
a binade, and has its ends if the significand is even. -/
def onGrid (m : Nat) (q : Int) (place : Int) : Option Nat :=
  let up := twoTo (q - 2).toNat * tenTo (-place).toNat
  let down := twoTo (2 - q).toNat * tenTo place.toNat
  let value := 4 * m * up
  let low := (if m = fractions ∧ -1074 < q then 4 * m - 1 else 4 * m - 2) * up
  let high := (4 * m + 2) * up
  let inside (c : Nat) : Bool :=
    if m % 2 = 0 then low ≤ c * down && c * down ≤ high else low < c * down && c * down < high
  let floor := value / down
  let nearerBelow := 2 * (value % down) < down
  match inside floor, inside (floor + 1) with
  | true, true => some (if nearerBelow then floor else floor + 1)
  | true, false => some floor
  | false, true => some (floor + 1)
  | false, false => none

/-- The first grid from `10 ^ (steps - 400)` downwards that has a point for
`m * 2 ^ q`, as the point and the place. -/
def coarsest (m : Nat) (q : Int) : Nat → Nat × Int
  | 0 => (0, 0)
  | steps + 1 =>
    let place : Int := (steps : Int) - 400
    match onGrid m q place with
    | some c => (c, place)
    | none => coarsest m q steps

/-- The digits and the power of ten of the shortest decimal number that rounds
to a positive finite magnitude. -/
def shortest (magnitude : Nat) : Nat × Int :=
  let (m, q) := parts magnitude
  coarsest m q 710

/-- `digits * 10 ^ place` written out, with a point only if there are places
behind it. -/
def positional (digits : Nat) (place : Int) : List Char :=
  let ds := Decimal.ofNat digits
  if 0 ≤ place then ds ++ List.replicate place.toNat '0'
  else
    let places := (-place).toNat
    if places < ds.length then ds.take (ds.length - places) ++ '.' :: ds.drop (ds.length - places)
    else '0' :: '.' :: List.replicate (places - ds.length) '0' ++ ds

/-- The text of a score: the shortest decimal number, never with an exponent,
and a signed word for an infinity. -/
def text (x : Binary64) : String :=
  if x.isNaN then "NaN"
  else if x.isInfinite then if x.isNegative then "-inf" else "+inf"
  else
    let digits :=
      if x.magnitudeBits = 0 then ['0']
      else
        let (digits, place) := shortest x.magnitudeBits
        positional digits place
    .ofList (if x.isNegative then '-' :: digits else digits)

/-! ## Reading -/

/-- A decimal number without its sign. -/
structure Literal where
  /-- All digits, without the point. -/
  digits : Nat
  /-- The power of ten they are multiplied by. -/
  exponent : Int

/-- The value of digits. -/
def digitsValue (digits : List Char) : Nat :=
  digits.foldl (fun value c => value * 10 + (c.toNat - 48)) 0

/-- Whether a character is an ASCII digit. -/
def isDigit (c : Char) : Bool := (Decimal.digit? c).isSome

/-- A power of ten: nothing, or an `e` with an optional sign and digits. -/
def readExponent : List Char → Option Int
  | [] => some 0
  | c :: rest =>
    if c = 'e' ∨ c = 'E' then
      let (negative, digits) :=
        match rest with
        | '-' :: digits => (true, digits)
        | '+' :: digits => (false, digits)
        | digits => (false, digits)
      if digits.isEmpty ∨ ¬ digits.all isDigit then none
      else
        let value := digitsValue digits
        some (if negative then -(value : Int) else value)
    else none

/-- A decimal number without its sign: digits with at most one point among or
beside them, then an optional power of ten. -/
def readLiteral (chars : List Char) : Option Literal :=
  let whole := chars.takeWhile isDigit
  let rest := chars.dropWhile isDigit
  let (places, rest) :=
    match rest with
    | '.' :: rest => (rest.takeWhile isDigit, rest.dropWhile isDigit)
    | rest => ([], rest)
  if whole.isEmpty ∧ places.isEmpty then none
  else
    (readExponent rest).map fun exponent =>
      ⟨digitsValue (whole ++ places), exponent - places.length⟩

/-- The magnitude of a text without a sign: a decimal number, or a word in
letters of either case. -/
def readMagnitude (chars : List Char) : Option Nat :=
  match readLiteral chars with
  | some literal => some (nearest literal.digits literal.exponent)
  | none =>
    let word := String.ofList (chars.map Char.toLower)
    if word = "inf" ∨ word = "infinity" then some infinityBits
    else if word = "nan" then some nan.magnitudeBits
    else none

/-- Reads a number: an optional sign, then a magnitude. -/
def read? (chars : List Char) : Option Binary64 :=
  match chars with
  | '-' :: rest => (readMagnitude rest).map (ofMagnitude true)
  | '+' :: rest => (readMagnitude rest).map (ofMagnitude false)
  | rest => (readMagnitude rest).map (ofMagnitude false)

end Binary64

end RedisClient
