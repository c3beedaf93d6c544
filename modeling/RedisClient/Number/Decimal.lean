/-!
# Decimal integers

Whole numbers are written with the fewest digits and read back from an optional
sign and one or more ASCII digits. Reading goes from left to right and refuses
at the first character that is no digit or that takes the value out of range,
so of two faults the one further left is reported.
-/

namespace RedisClient

namespace Decimal

/-- The digits of a natural number. -/
def ofNat (n : Nat) : List Char := Nat.toDigits 10 n

/-- The digits of an integer, after a minus sign if it is negative. -/
def ofInt : Int → List Char
  | .ofNat n => ofNat n
  | .negSucc n => '-' :: ofNat (n + 1)

/-- The text of a natural number. -/
def natText (n : Nat) : String := .ofList (ofNat n)

/-- The text of an integer. -/
def intText (n : Int) : String := .ofList (ofInt n)

/-- Why a text is no number of the type asked for. -/
inductive Fault where
  | empty
  | badDigit
  | tooLarge
  | tooSmall
  deriving DecidableEq, Repr

/-- The wording of a fault. -/
def Fault.message : Fault → String
  | .empty => "cannot parse integer from empty string"
  | .badDigit => "invalid digit found in string"
  | .tooLarge => "number too large to fit in target type"
  | .tooSmall => "number too small to fit in target type"

/-- The value of an ASCII digit. -/
def digit? (c : Char) : Option Nat :=
  if '0' ≤ c ∧ c ≤ '9' then some (c.toNat - 48) else none

/-- The value of `value` followed by more digits, as long as it stays within
`limit`; `overflow` is the fault of passing it. -/
def readDigits (limit : Nat) (overflow : Fault) : Nat → List Char → Except Fault Nat
  | value, [] => .ok value
  | value, c :: rest =>
    match digit? c with
    | none => .error .badDigit
    | some d =>
      if value * 10 + d ≤ limit then readDigits limit overflow (value * 10 + d) rest
      else .error overflow

/-- The magnitude after a sign: at least one digit. -/
def readMagnitude (limit : Nat) (overflow : Fault) (digits : List Char) : Except Fault Nat :=
  if digits.isEmpty then .error .badDigit else readDigits limit overflow 0 digits

/-- Reads an integer from `-below` to `above`. -/
def readInt (below above : Nat) : List Char → Except Fault Int
  | [] => .error .empty
  | c :: rest =>
    if c = '+' then (readMagnitude above .tooLarge rest).map Int.ofNat
    else if c = '-' then (readMagnitude below .tooSmall rest).map fun n => -(n : Int)
    else (readMagnitude above .tooLarge (c :: rest)).map Int.ofNat

/-- Reads a natural number up to `above`. A minus sign is no digit, so even
minus zero is refused. -/
def readNat (above : Nat) : List Char → Except Fault Nat
  | [] => .error .empty
  | c :: rest =>
    if c = '+' then readMagnitude above .tooLarge rest
    else readMagnitude above .tooLarge (c :: rest)

/-- Reads a 64-bit signed integer. -/
def readInt64 (digits : List Char) : Except Fault Int64 :=
  (readInt 0x8000000000000000 0x7FFFFFFFFFFFFFFF digits).map Int64.ofInt

/-- Reads an 8-bit number. -/
def readUInt8 (digits : List Char) : Except Fault UInt8 :=
  (readNat 0xFF digits).map UInt8.ofNat

/-- Reads a 16-bit number. -/
def readUInt16 (digits : List Char) : Except Fault UInt16 :=
  (readNat 0xFFFF digits).map UInt16.ofNat

/-- Reads a 32-bit number. -/
def readUInt32 (digits : List Char) : Except Fault UInt32 :=
  (readNat 0xFFFFFFFF digits).map UInt32.ofNat

end Decimal

end RedisClient
