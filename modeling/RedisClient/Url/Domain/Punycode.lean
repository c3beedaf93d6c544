import RedisClient.Number.Decimal

/-!
# Punycode

A text with characters outside ASCII can be written with letters, digits and
hyphens. Its ASCII characters come first, with a hyphen behind them if there are
any; then come numbers in a notation of base 36. Each number says how far to
walk on to the next character to be inserted, where a walk goes through all
places of the text for one code point before it comes to the next code point.
How many digits a number is expected to have is learned from the numbers before
it. Numbers must fit into 32 bits.
-/

namespace RedisClient

namespace Punycode

/-- The value of a digit: letters stand for 0 to 25, decimal digits for 26 to
35. -/
def digit? (c : Char) : Option Nat :=
  if 'a' ≤ c ∧ c ≤ 'z' then some (c.toNat - 97)
  else if 'A' ≤ c ∧ c ≤ 'Z' then some (c.toNat - 65)
  else (Decimal.digit? c).map (· + 26)

/-- A number, if it fits into 32 bits. -/
def word? (n : Nat) : Option Nat := if n < 0x100000000 then some n else none

/-- The character of a code point, if it is one. -/
def char? (n : Nat) : Option Char :=
  if n < 0xD800 ∨ (0xDFFF < n ∧ n < 0x110000) then some (Char.ofNat n) else none

/-- The least value of a digit that is not the last of its number. -/
def threshold (bias position : Nat) : Nat :=
  if position ≤ bias then 1 else if bias + 26 ≤ position then 26 else position - bias

/-- The bias for a number that is `length` places long, given how often 35 was
already taken out of it. -/
def biasFrom (position delta : Nat) : Nat :=
  if 455 < delta then biasFrom (position + 36) (delta / 35)
  else position + 36 * delta / (delta + 38)
termination_by delta
decreasing_by exact Nat.div_lt_self (by omega) (by omega)

/-- The bias after a number, in a text that it made `length` characters long. -/
def nextBias (delta length : Nat) (isFirst : Bool) : Nat :=
  let scaled := if isFirst then delta / 700 else delta / 2
  biasFrom 0 (scaled + scaled / length)

/-- How far a text is decoded. -/
structure Decoding where
  /-- The text so far. -/
  text : List Char
  /-- The code point that is inserted next, unless the walk goes further. -/
  codePoint : Nat := 128
  /-- The bias of the number that is read. -/
  bias : Nat := 72
  /-- The place from which the walk goes on. -/
  start : Nat := 0
  /-- The place that the walk has come to. -/
  place : Nat := 0
  /-- What a unit of the next digit counts. -/
  weight : Nat := 1
  /-- The position of the next digit in its number, as a multiple of 36. -/
  position : Nat := 36

namespace Decoding

/-- Inserts the character that a finished number leads to. -/
def insert (s : Decoding) : Option Decoding := do
  let length := s.text.length + 1
  let codePoint := s.codePoint + s.place / length
  let place := s.place % length
  let c ← char? codePoint
  return {
    text := s.text.take place ++ c :: s.text.drop place
    codePoint
    bias := nextBias (s.place - s.start) length (s.start == 0)
    start := place + 1
    place := place + 1 }

/-- Reads one digit more. A digit below the threshold ends its number. -/
def push (s : Decoding) (c : Char) : Option Decoding := do
  let digit ← digit? c
  let place ← word? (s.place + digit * s.weight)
  let least := threshold s.bias s.position
  if digit < least then insert { s with place }
  else
    let weight ← word? (s.weight * (36 - least))
    return { s with place, weight, position := s.position + 36 }

end Decoding

/-- The ASCII characters and the digits of an encoded text. A hyphen with nothing
before it counts among the digits. -/
def split (code : List Char) : List Char × List Char :=
  match code.reverse.dropWhile (· != '-') with
  | _ :: front :: rest =>
    ((front :: rest).reverse, (code.reverse.takeWhile (· != '-')).reverse)
  | _ => ([], code)

/-- The text that a code stands for. It does not end within a number. -/
def decode (code : List Char) : Option (List Char) := do
  let (basic, digits) := split code
  if basic.any fun c => 0x7F < c.toNat then none
  let last ← digits.foldlM Decoding.push { text := basic }
  if last.position = 36 then some last.text else none

end Punycode

end RedisClient
