import RedisClient.Error
import RedisClient.Scan.Page
import RedisClient.Value

/-!
# Reading replies

A reply is a frame; what it means depends on the command. Each reader here
accepts the frames of one meaning and refuses the rest: an error line is always
the server's own error, anything else of the wrong shape is a protocol fault. Of
several faults in one reply the first from the left is reported.
-/

namespace RedisClient

namespace Frame

/-- The error of a frame of the wrong shape. -/
def mismatch (frame : Frame) (expected : Shape) : Error :=
  match frame with
  | error text => .ofLine text
  | frame => .protocol (.unexpected expected frame)

/-- Accepts any reply that is no error. -/
def readStatus (frame : Frame) : Except Error Unit := do
  let _ ← frame.toResult
  return ()

/-- A byte string that may be missing. -/
def readBytes? : Frame → Except Error (Option Bytes)
  | bulk data => .ok (some data)
  | simple text => .ok (some text)
  | nullBulk | nullArray => .ok none
  | frame => .error (frame.mismatch .bulkString)

/-- A byte string. -/
def readBytes (frame : Frame) : Except Error Bytes := do
  match ← frame.readBytes? with
  | some data => return data
  | none => throw (.protocol .nullElement)

/-- A byte string, empty if it is missing. -/
def readBytesOrEmpty (frame : Frame) : Except Error Bytes := do
  return (← frame.readBytes?).getD []

/-- The integer that a byte string spells. -/
def intOfBytes (raw : Bytes) : Except Error Int64 :=
  match (Utf8.decode raw).toOption.bind fun chars => (Decimal.readInt64 chars).toOption with
  | some n => .ok n
  | none => .error (.protocol (.invalidNumber raw))

/-- The floating-point number that a byte string spells. -/
def floatOfBytes (raw : Bytes) : Except Error Binary64 :=
  match (Utf8.decode raw).toOption.bind Binary64.read? with
  | some x => .ok x
  | none => .error (.protocol (.invalidNumber raw))

/-- An integer, as such or spelled by a byte string. -/
def readInt : Frame → Except Error Int64
  | integer n => .ok n
  | bulk raw => intOfBytes raw
  | frame => .error (frame.mismatch .integer)

/-- A truth value: any integer but zero is true. -/
def readBool (frame : Frame) : Except Error Bool := do
  return (← frame.readInt) != 0

/-- A floating-point number that may be missing. -/
def readFloat? (frame : Frame) : Except Error (Option Binary64) := do
  match ← frame.readBytes? with
  | some raw => return some (← floatOfBytes raw)
  | none => return none

/-- The score that a member was raised to. -/
def readScore (frame : Frame) : Except Error Binary64 := do
  match ← frame.readFloat? with
  | some score => return score
  | none => throw (.protocol .nullScore)

/-- A text that may be missing. -/
def readText? : Frame → Except Error (Option String)
  | integer n => .ok (some (Decimal.intText n.toInt))
  | frame => do return (← frame.readBytes?).map Utf8.decodeLossy

/-- A text, empty if it is missing. -/
def readText (frame : Frame) : Except Error String := do
  return (← frame.readText?).getD ""

/-- The elements of an array; the null array has none. -/
def readItems : Frame → Except Error (List Frame)
  | array items => .ok items
  | nullArray => .ok []
  | frame => .error (frame.mismatch .array)

/-- The byte strings of an array. -/
def readList (frame : Frame) : Except Error (List Bytes) := do
  (← frame.readItems).mapM readBytes

/-- Neighbours two by two; a last one without a neighbour is left out. -/
def pairUp {α : Type} : List α → List (α × α)
  | a :: b :: rest => (a, b) :: pairUp rest
  | _ => []

/-- The pairs of a flat list, each second element read further by `second`. -/
def readPairs {α : Type} (second : Bytes → Except Error α) (items : List Frame) :
    Except Error (List (Bytes × α)) :=
  if items.length % 2 = 0 then
    (pairUp items).mapM fun (a, b) => do
      let key ← a.readBytes
      let value ← b.readBytes
      return (key, ← second value)
  else .error (.protocol .oddLength)

/-- The fields and values of a flat list, in order. -/
def readEntries (items : List Frame) : Except Error (List (Bytes × Bytes)) :=
  readPairs .ok items

/-- The members and scores of a flat list, in order. -/
def readMembers (items : List Frame) : Except Error (List ScoredMember) := do
  return (← readPairs floatOfBytes items).map fun (member, score) => ⟨member, score⟩

/-- A map from a flat array of fields and values. -/
def readMap (frame : Frame) : Except Error (Dictionary Bytes Bytes) := do
  return .ofPairs (← readEntries (← frame.readItems))

/-- The members and scores of a flat array. -/
def readScored (frame : Frame) : Except Error (List ScoredMember) := do
  readMembers (← frame.readItems)

/-- An integer that has 64 bits. -/
def int64? (n : Int) : Option Int64 :=
  if -0x8000000000000000 ≤ n ∧ n ≤ 0x7FFFFFFFFFFFFFFF then some (.ofInt n) else none

/-- The milliseconds of a clock reading in seconds and microseconds. -/
def millis? (seconds micros : Int64) : Option Int64 := do
  let whole ← int64? (seconds.toInt * 1000)
  int64? (whole.toInt + micros.toInt.tdiv 1000)

/-- A clock reading in milliseconds. -/
def readMillis (frame : Frame) : Except Error Int64 := do
  match ← frame.readItems with
  | [seconds, micros] =>
    let seconds ← seconds.readInt
    let micros ← micros.readInt
    match millis? seconds micros with
    | some millis => return millis
    | none => throw (.protocol .timeRange)
  | _ => throw (.protocol .timeLength)

mutual

/-- Any reply that holds no error. -/
def readValue : Frame → Except Error Value
  | simple text => .ok (if text = Utf8.encode "OK" then .ok else .text (Utf8.decodeLossy text))
  | error text => .error (.ofLine text)
  | integer n => .ok (.int n)
  | bulk data => .ok (.bytes data)
  | nullBulk | nullArray => .ok .nil
  | array items => do return .array (← readValues items)

/-- Replies in order. -/
def readValues : List Frame → Except Error (List Value)
  | [] => .ok []
  | item :: rest => do
    let value ← readValue item
    return value :: (← readValues rest)

end

/-- The token and the elements of a page. -/
def readPageParts (frame : Frame) : Except Error (String × List Frame) := do
  match ← frame.readItems with
  | [token, items] =>
    let token ← token.readText
    if token.isEmpty then throw (.protocol .emptyToken)
    return (token, ← items.readItems)
  | _ => throw (.protocol .pageLength)

/-- A page whose elements are read by `items`. -/
def readPage {α : Type} (items : List Frame → Except Error (List α)) (frame : Frame) :
    Except Error (Page α) := do
  let (token, elements) ← frame.readPageParts
  return ⟨token, ← items elements⟩

/-- A page of byte strings. -/
def readValuePage : Frame → Except Error (Page Bytes) := readPage (·.mapM readBytes)

/-- A page of fields and values. -/
def readEntryPage : Frame → Except Error (Page (Bytes × Bytes)) := readPage readEntries

/-- A page of members and scores. -/
def readScoredPage : Frame → Except Error (Page ScoredMember) := readPage readMembers

end Frame

end RedisClient
