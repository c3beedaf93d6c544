import RedisClient.Text.Utf8

/-!
# Percent-encoding

A byte may be written as a percent sign and two hexadecimal digits. Decoding
leaves a percent sign alone that two digits do not follow.
-/

namespace RedisClient

namespace Percent

/-- The value of a hexadecimal digit. -/
def hexDigit? (c : Char) : Option Nat :=
  if '0' ≤ c ∧ c ≤ '9' then some (c.toNat - 48)
  else if 'a' ≤ c ∧ c ≤ 'f' then some (c.toNat - 87)
  else if 'A' ≤ c ∧ c ≤ 'F' then some (c.toNat - 55)
  else none

/-- The value of a byte that is a hexadecimal digit. -/
def hexByte? (b : UInt8) : Option Nat := hexDigit? (Char.ofNat b.toNat)

/-- The bytes that an encoded byte string stands for. -/
def decode : Bytes → Bytes
  | b :: high :: low :: rest =>
    match b == 37, hexByte? high, hexByte? low with
    | true, some h, some l => .ofNat (h * 16 + l) :: decode rest
    | _, _, _ => b :: decode (high :: low :: rest)
  | bytes => bytes

/-- An upper-case hexadecimal digit. -/
def hexDigit (n : Nat) : Char := (Nat.digitChar n).toUpper

/-- A byte as a percent sign and two digits. -/
def encodeByte (b : UInt8) : List Char := ['%', hexDigit (b.toNat / 16), hexDigit (b.toNat % 16)]

/-- A character as it is, or by its bytes if it is a control, outside ASCII or
in the set. -/
def encodeChar (set : Char → Bool) (c : Char) : List Char :=
  if c.toNat < 0x20 ∨ 0x7F ≤ c.toNat ∨ set c then (Utf8.encodeChar c).flatMap encodeByte else [c]

/-- A text with the characters of a set encoded. -/
def encode (set : Char → Bool) (text : List Char) : List Char := text.flatMap (encodeChar set)

end Percent

end RedisClient
