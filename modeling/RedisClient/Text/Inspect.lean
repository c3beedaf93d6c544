import RedisClient.Bytes
import RedisClient.Number.Decimal
import RedisClient.Text.Printable

/-!
# Inspection texts

How values are shown to a person who looks into a program: texts and byte
strings in quotes, records with their fields, lists, optional values and spans
of time.
-/

namespace RedisClient

namespace Inspect

/-- The lower-case hexadecimal digits of a number. -/
def hexDigits (n : Nat) : List Char := Nat.toDigits 16 n

/-- A character inside a quoted text. -/
def quotedChar (c : Char) : List Char :=
  if c = '\x00' then ['\\', '0']
  else if c = '\t' then ['\\', 't']
  else if c = '\r' then ['\\', 'r']
  else if c = '\n' then ['\\', 'n']
  else if c = '\\' then ['\\', '\\']
  else if c = '"' then ['\\', '"']
  else if Printable.isShown c then [c]
  else ['\\', 'u', '\x7b'] ++ hexDigits c.toNat ++ ['\x7d']

/-- A text in quotes. -/
def text (s : String) : String := .ofList ('"' :: s.toList.flatMap quotedChar ++ ['"'])

/-- A byte inside a quoted byte string. -/
def quotedByte (b : UInt8) : List Char :=
  let n := b.toNat
  if n = 0 then ['\\', '0']
  else if n = 9 then ['\\', 't']
  else if n = 13 then ['\\', 'r']
  else if n = 10 then ['\\', 'n']
  else if n = 92 then ['\\', '\\']
  else if n = 34 then ['\\', '"']
  else if 0x20 ≤ n ∧ n < 0x7F then [Char.ofNat n]
  else ['\\', 'x'] ++ hexDigits (n / 16) ++ hexDigits (n % 16)

/-- A byte string in quotes. -/
def bytes (data : Bytes) : String := .ofList ('b' :: '"' :: data.flatMap quotedByte ++ ['"'])

/-- Items in brackets. -/
def list (items : List String) : String := "[" ++ String.intercalate ", " items ++ "]"

/-- A number. -/
def nat (n : Nat) : String := Decimal.natText n

/-- A truth value. -/
def bool (b : Bool) : String := if b then "true" else "false"

/-- A value that may be absent, shown by `inspect` when it is there. -/
def option {α : Type} (inspect : α → String) : Option α → String
  | none => "None"
  | some a => "Some(" ++ inspect a ++ ")"

/-- A record: its name, then its fields in braces. -/
def record (name : String) (fields : List (String × String)) : String :=
  let shown := fields.map fun (label, value) => label ++ ": " ++ value
  name ++ " \x7b " ++ String.intercalate ", " shown ++ " \x7d"

/-- A number of milliseconds, in seconds from one second on. -/
def duration (millis : Nat) : String :=
  let seconds := millis / 1000
  let rest := millis % 1000
  if seconds = 0 then if rest = 0 then "0ns" else nat rest ++ "ms"
  else
    let places := ['0', '0', '0'] ++ Decimal.ofNat rest
    let places := places.drop (places.length - 3)
    let places := (places.reverse.dropWhile (· = '0')).reverse
    nat seconds ++ (if places.isEmpty then "" else "." ++ .ofList places) ++ "s"

end Inspect

end RedisClient
