import RedisClient.Bytes

/-!
# UTF-8

Text leaves as UTF-8 (`encode`) and comes back in two ways: `decode` refuses
bytes that are not UTF-8 and says where they go wrong, `decodeLossy` puts a
replacement character wherever they do. Both read the same list of `Piece`s,
which cuts the bytes into scalar values and maximal ill-formed runs: a run ends
before the first byte that could not continue the sequence begun.
-/

namespace RedisClient

namespace Utf8

/-- The bytes of one scalar value. -/
def encodeChar (c : Char) : Bytes :=
  let n := c.toNat
  if n < 0x80 then [.ofNat n]
  else if n < 0x800 then [.ofNat (0xC0 + n / 64), .ofNat (0x80 + n % 64)]
  else if n < 0x10000 then
    [.ofNat (0xE0 + n / 4096), .ofNat (0x80 + n / 64 % 64), .ofNat (0x80 + n % 64)]
  else
    [.ofNat (0xF0 + n / 262144), .ofNat (0x80 + n / 4096 % 64), .ofNat (0x80 + n / 64 % 64),
      .ofNat (0x80 + n % 64)]

/-- The bytes of a text. -/
def encode (text : String) : Bytes := text.toList.flatMap encodeChar

/-- A piece of a byte string that is read as UTF-8. -/
inductive Piece where
  /-- A well-formed sequence and the scalar value it stands for. -/
  | scalar (c : Char)
  /-- Bytes that begin no sequence, cut off by a byte that cannot follow them. -/
  | malformed (length : Nat)
  /-- Bytes that begin a sequence, cut off by the end. -/
  | truncated
  deriving DecidableEq, Repr

/-- A sequence whose first bytes have been read. -/
structure Sequence where
  /-- How many bytes have been read. -/
  seen : Nat
  /-- How many bytes are still to come. -/
  missing : Nat
  /-- The value of the bits read so far. -/
  value : Nat
  /-- The least byte that may come next. -/
  low : Nat
  /-- The greatest byte that may come next. -/
  high : Nat

/-- Reads the first byte of a sequence. The second byte is held to a narrower
range where a wider one would admit an overlong form, a surrogate or a value
above U+10FFFF. -/
def begin (byte : UInt8) : Piece ⊕ Sequence :=
  let n := byte.toNat
  if n < 0x80 then .inl (.scalar (.ofNat n))
  else if n < 0xC2 then .inl (.malformed 1)
  else if n < 0xE0 then .inr ⟨1, 1, n - 0xC0, 0x80, 0xBF⟩
  else if n = 0xE0 then .inr ⟨1, 2, 0, 0xA0, 0xBF⟩
  else if n = 0xED then .inr ⟨1, 2, n - 0xE0, 0x80, 0x9F⟩
  else if n < 0xF0 then .inr ⟨1, 2, n - 0xE0, 0x80, 0xBF⟩
  else if n = 0xF0 then .inr ⟨1, 3, 0, 0x90, 0xBF⟩
  else if n < 0xF4 then .inr ⟨1, 3, n - 0xF0, 0x80, 0xBF⟩
  else if n = 0xF4 then .inr ⟨1, 3, 4, 0x80, 0x8F⟩
  else .inl (.malformed 1)

/-- Reads one more byte of a sequence. -/
def Sequence.extend (s : Sequence) (byte : UInt8) : Piece ⊕ Sequence :=
  let value := s.value * 64 + (byte.toNat - 0x80)
  if s.missing ≤ 1 then .inl (.scalar (.ofNat value))
  else .inr ⟨s.seen + 1, s.missing - 1, value, 0x80, 0xBF⟩

/-- The pieces of the bytes that follow the sequence under way, if one is. -/
def piecesFrom : Option Sequence → Bytes → List Piece
  | none, [] => []
  | some _, [] => [.truncated]
  | none, b :: rest =>
    match begin b with
    | .inl piece => piece :: piecesFrom none rest
    | .inr s => piecesFrom (some s) rest
  | some s, b :: rest =>
    if s.low ≤ b.toNat ∧ b.toNat ≤ s.high then
      match s.extend b with
      | .inl piece => piece :: piecesFrom none rest
      | .inr s => piecesFrom (some s) rest
    else
      .malformed s.seen ::
        match begin b with
        | .inl piece => piece :: piecesFrom none rest
        | .inr s => piecesFrom (some s) rest

/-- The pieces of a byte string, in order. -/
def pieces (bytes : Bytes) : List Piece := piecesFrom none bytes

/-- Why bytes are not UTF-8. -/
inductive Fault where
  /-- At `index` stand `length` bytes that are part of no sequence. -/
  | invalid (length index : Nat)
  /-- The bytes end inside the sequence that begins at `index`. -/
  | incomplete (index : Nat)
  deriving DecidableEq, Repr

/-- The wording of a fault. -/
def Fault.message : Fault → String
  | .invalid length index => s!"invalid utf-8 sequence of {length} bytes from index {index}"
  | .incomplete index => s!"incomplete utf-8 byte sequence from index {index}"

/-- The characters of pieces that are all scalar values, or the first fault.
`index` is the number of bytes in front of the pieces. -/
def charsFrom : Nat → List Piece → Except Fault (List Char)
  | _, [] => .ok []
  | index, .scalar c :: rest => do
    let chars ← charsFrom (index + (encodeChar c).length) rest
    return c :: chars
  | index, .malformed length :: _ => .error (.invalid length index)
  | index, .truncated :: _ => .error (.incomplete index)

/-- The characters of a byte string that is UTF-8. -/
def decode (bytes : Bytes) : Except Fault (List Char) := charsFrom 0 (pieces bytes)

/-- The text of a byte string, if it is UTF-8. -/
def decodeText? (bytes : Bytes) : Option String := (decode bytes).toOption.map String.ofList

/-- The character that stands for bytes that are not UTF-8. -/
def replacement : Char := '\uFFFD'

/-- The text of a byte string, with a replacement character for every
ill-formed run. -/
def decodeLossy (bytes : Bytes) : String :=
  .ofList <| (pieces bytes).map fun
    | .scalar c => c
    | _ => replacement

end Utf8

end RedisClient
