import RedisClient.Bytes

/-!
# Frames

A frame is one unit of the protocol: every reply is one, and a command is an
array of bulk strings. Arrays hold frames of any kind, and there are two nulls,
one spelled as a bulk string and one as an array.
-/

namespace RedisClient

/-- A frame of the protocol. -/
inductive Frame where
  /-- A status line. -/
  | simple (text : Bytes)
  /-- An error line. -/
  | error (text : Bytes)
  /-- A 64-bit signed integer. -/
  | integer (value : Int64)
  /-- A byte string of a stated length. -/
  | bulk (data : Bytes)
  /-- The null spelled as a bulk string. -/
  | nullBulk
  /-- Frames in order. -/
  | array (items : List Frame)
  /-- The null spelled as an array. -/
  | nullArray
  deriving Inhabited, Repr

namespace Frame

/-- Whether a frame is one of the two nulls. -/
def isNull : Frame → Bool
  | nullBulk | nullArray => true
  | _ => false

/-- Whether a frame reports an error. -/
def isError : Frame → Bool
  | error _ => true
  | _ => false

/-- An array of bulk strings, the form of a command. -/
def ofWords (words : List Bytes) : Frame := array (words.map bulk)

end Frame

/-- The byte that opens a header line and says what the line is. -/
inductive Marker where
  | simple
  | error
  | integer
  | bulk
  | array
  deriving DecidableEq, Repr

namespace Marker

/-- The byte of a marker. -/
def byte : Marker → UInt8
  | simple => 43
  | error => 45
  | integer => 58
  | bulk => 36
  | array => 42

/-- The marker of a byte. -/
def ofByte? (b : UInt8) : Option Marker :=
  if b = 43 then some simple
  else if b = 45 then some error
  else if b = 58 then some integer
  else if b = 36 then some bulk
  else if b = 42 then some array
  else none

/-- A byte is a marker's exactly if it reads as that marker. -/
theorem ofByte?_eq_some_iff {b : UInt8} {m : Marker} : ofByte? b = some m ↔ b = m.byte := by
  constructor
  · unfold ofByte?
    intro h
    split at h
    · simp_all [byte]; subst h; rfl
    · grind [byte]
  · rintro rfl
    cases m <;> rfl

end Marker

end RedisClient
