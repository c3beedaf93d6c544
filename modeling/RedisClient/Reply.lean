import RedisClient.Reply.Reading

/-!
# Replies

A `ReplyKind` says what the reply to a command means: the type of the result,
how it is read from a frame and what `Value` it is. A `Reply` is the outcome of
a command: its result, or, while a pipeline is open, the place at which the
result will stand when the pipeline is closed.
-/

namespace RedisClient

/-- What the reply to a command means. -/
inductive ReplyKind where
  /-- Any reply that is no error. -/
  | status
  /-- A truth value. -/
  | flag
  /-- An integer. -/
  | integer
  /-- A byte string. -/
  | bytes
  /-- A byte string that may be missing. -/
  | optionalBytes
  /-- A byte string, empty if it is missing. -/
  | bytesOrEmpty
  /-- A text, empty if it is missing. -/
  | text
  /-- A text that may be missing. -/
  | optionalText
  /-- Byte strings. -/
  | list
  /-- Fields with their values. -/
  | map
  /-- Members with their scores. -/
  | scored
  /-- A score that may be missing. -/
  | optionalScore
  /-- A score. -/
  | score
  /-- A clock reading in milliseconds. -/
  | millis
  /-- Whatever the reply holds. -/
  | value
  deriving DecidableEq, Repr

namespace ReplyKind

/-- The type of a result. -/
abbrev Result : ReplyKind → Type
  | status => Unit
  | flag => Bool
  | integer | millis => Int64
  | bytes | bytesOrEmpty => Bytes
  | optionalBytes => Option Bytes
  | text => String
  | optionalText => Option String
  | list => List Bytes
  | map => Dictionary Bytes Bytes
  | scored => List ScoredMember
  | optionalScore => Option Binary64
  | score => Binary64
  | value => Value

/-- Reads a result from a frame. -/
def read : (kind : ReplyKind) → Frame → Except Error kind.Result
  | status => Frame.readStatus
  | flag => Frame.readBool
  | integer => Frame.readInt
  | bytes => Frame.readBytes
  | optionalBytes => Frame.readBytes?
  | bytesOrEmpty => Frame.readBytesOrEmpty
  | text => Frame.readText
  | optionalText => Frame.readText?
  | list => Frame.readList
  | map => Frame.readMap
  | scored => Frame.readScored
  | optionalScore => Frame.readFloat?
  | score => Frame.readScore
  | millis => Frame.readMillis
  | value => Frame.readValue

/-- The value of a result. -/
def toValue : (kind : ReplyKind) → kind.Result → Value
  | status, _ => .ok
  | flag, b => .bool b
  | integer, n | millis, n => .int n
  | bytes, data | bytesOrEmpty, data => .bytes data
  | optionalBytes, data => data.elim .nil .bytes
  | text, s => .text s
  | optionalText, s => s.elim .nil .text
  | list, items => .array (items.map .bytes)
  | map, fields => .map fields
  | scored, members => .array (members.map .scored)
  | optionalScore, x => x.elim .nil .float
  | score, x => .float x
  | value, v => v

/-- Reads the value of a result from a frame. -/
def readValue (kind : ReplyKind) (frame : Frame) : Except Error Value :=
  (kind.read frame).map kind.toValue

end ReplyKind

/-- The outcome of a command. -/
inductive Reply (α : Type) where
  /-- The command ran and gave a result. -/
  | value (a : α)
  /-- The command waits; its result will stand at this place. -/
  | queued (index : Nat)
  deriving DecidableEq, Repr

namespace Reply

variable {α β : Type}

/-- The result, which a waiting command does not have yet. -/
def result : Reply α → Except Error α
  | value a => .ok a
  | queued index => .error (.misuse (.replyQueued index))

/-- The result, if there is one. -/
def result? : Reply α → Option α
  | value a => some a
  | queued _ => none

/-- Whether the command waits. -/
def isQueued : Reply α → Bool
  | value _ => false
  | queued _ => true

/-- The place of a waiting command's result. -/
def index? : Reply α → Option Nat
  | value _ => none
  | queued index => some index

/-- Converts the result. -/
def map (f : α → β) : Reply α → Reply β
  | value a => .value (f a)
  | queued index => .queued index

end Reply

end RedisClient
