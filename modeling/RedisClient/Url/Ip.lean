import RedisClient.Number.Decimal
import RedisClient.Url.Percent

/-!
# Internet addresses

The numeric forms of a host. An IPv6 address is eight 16-bit groups; `readIpv6`
reads every spelling and `ipv6Text` writes the canonical one, lower-case with the
first longest run of zero groups left out. An IPv4 address is only told apart
from a name here.
-/

namespace RedisClient

namespace Ip

/-- The parts of a text between the occurrences of a character. -/
def splitAt (mark : Char) : List Char → List (List Char)
  | [] => [[]]
  | c :: rest =>
    if c = mark then [] :: splitAt mark rest
    else
      match splitAt mark rest with
      | [] => [[c]]
      | part :: parts => (c :: part) :: parts

/-- The value of digits in a base, given the value of one digit. -/
def readBase (base : Nat) (digit? : Char → Option Nat) (text : List Char) : Option Nat :=
  text.foldl (fun value c => do return (← value) * base + (← digit? c)) (some 0)

/-- A group of an IPv6 address: one to four hexadecimal digits. -/
def readGroup (text : List Char) : Option Nat :=
  if 1 ≤ text.length ∧ text.length ≤ 4 then readBase 16 Percent.hexDigit? text else none

/-- A part of a dotted address inside an IPv6 address: a number up to 255
without leading zeros. -/
def readOctet (text : List Char) : Option Nat := do
  if text.isEmpty ∨ (1 < text.length ∧ text.head? = some '0') ∨ 3 < text.length then none
  let n ← readBase 10 Decimal.digit? text
  if n ≤ 255 then some n else none

/-- Four dotted numbers as two groups. -/
def readDotted (text : List Char) : Option (List Nat) := do
  match ← (splitAt '.' text).mapM readOctet with
  | [a, b, c, d] => some [a * 256 + b, c * 256 + d]
  | _ => none

/-- The groups of parts. The last part of an address may be dotted. -/
def readGroups (mayBeDotted : Bool) : List (List Char) → Option (List Nat)
  | [] => some []
  | [part] =>
    if mayBeDotted && part.contains '.' then readDotted part
    else (readGroup part).map ([·])
  | part :: parts => do
    let group ← readGroup part
    return group :: (← readGroups mayBeDotted parts)

/-- The groups of a side of the gap; an empty side has none. -/
def readSide (mayBeDotted : Bool) (text : List Char) : Option (List Nat) :=
  if text.isEmpty then some [] else readGroups mayBeDotted (splitAt ':' text)

/-- A text cut at its first pair of colons, which marks the gap. -/
def splitGap : List Char → Option (List Char × List Char)
  | a :: b :: rest =>
    if a = ':' ∧ b = ':' then some ([], rest)
    else (splitGap (b :: rest)).map fun (front, back) => (a :: front, back)
  | _ => none

/-- The eight groups of an IPv6 address. A gap stands for one or more zero
groups. -/
def readIpv6 (text : List Char) : Option (List Nat) := do
  match splitGap text with
  | none =>
    let groups ← readGroups true (splitAt ':' text)
    if groups.length = 8 then some groups else none
  | some (front, back) =>
    let front ← readSide false front
    let back ← readSide true back
    let known := front.length + back.length
    if known ≤ 7 then some (front ++ List.replicate (8 - known) 0 ++ back) else none

/-- The length of the run of zero groups at the front. -/
def zeroRun (groups : List Nat) : Nat := (groups.takeWhile (· = 0)).length

/-- The place and the length of the first longest run of zero groups, if one has
two groups or more. -/
def longestZeroRun (groups : List Nat) : Option (Nat × Nat) :=
  (List.range groups.length).foldl (fun best place =>
    let length := zeroRun (groups.drop place)
    if 2 ≤ length ∧ (best.all fun run => run.2 < length) then some (place, length) else best) none

/-- Groups with colons between them. -/
def groupsText (groups : List Nat) : List Char :=
  List.intercalate [':'] (groups.map (Nat.toDigits 16))

/-- The canonical text of an IPv6 address. -/
def ipv6Text (groups : List Nat) : List Char :=
  match longestZeroRun groups with
  | none => groupsText groups
  | some (place, length) =>
    groupsText (groups.take place) ++ [':', ':'] ++ groupsText (groups.drop (place + length))

/-- A number of a dotted address in one of the spellings that browsers read:
decimal, octal after `0`, hexadecimal after `0x`. -/
def readLoose (text : List Char) : Option Nat :=
  match text with
  | [] => none
  | ['0'] => some 0
  | '0' :: c :: rest =>
    if c = 'x' ∨ c = 'X' then readBase 16 Percent.hexDigit? rest
    else readBase 8 (fun d => (Decimal.digit? d).filter (· < 8)) (c :: rest)
  | text => readBase 10 Decimal.digit? text

/-- The parts of a host name, without the empty one behind a last dot. -/
def nameParts (name : List Char) : List (List Char) :=
  let parts := splitAt '.' name
  if 1 < parts.length ∧ parts.getLast? = some [] then parts.dropLast else parts

/-- Whether a host name has to be a dotted address because its last part is a
number. -/
def endsInNumber (name : List Char) : Bool :=
  match (nameParts name).getLast? with
  | none => false
  | some last =>
    (!last.isEmpty && last.all fun c => (Decimal.digit? c).isSome) || (readLoose last).isSome

/-- Whether a host name is a dotted address: up to four numbers, the last of
which fills the bytes that the others leave. -/
def isIpv4 (name : List Char) : Bool :=
  let parts := nameParts name
  match parts.mapM readLoose with
  | none => false
  | some numbers =>
    numbers.length ≤ 4 && numbers.dropLast.all (· ≤ 255) &&
      numbers.getLast?.all (· < Nat.pow 256 (5 - numbers.length))

end Ip

end RedisClient
