import RedisClient.Frame
import RedisClient.Number.Decimal
import RedisClient.Text.Utf8

/-!
# Reading frames

A `Decoder` is fed bytes as they arrive and gives frames as they become
complete. Elements of an array that is not yet full are kept from one call to
the next, so that a large reply in many pieces is read once. `Token.read` reads
one header line with its payload; `Decoder.advance` reads tokens and files
values into the arrays that are open until a whole frame stands or the bytes
run out.
-/

namespace RedisClient

/-- How deep arrays with elements may be nested. -/
def maxDepth : Nat := 64

/-- The largest number of bytes a decoder holds unless told otherwise. -/
def defaultLimit : Nat := 512 * 1024 * 1024

/-- The fewest bytes an array's element is taken to need when an array's length
is held against the limit. -/
def elementSize : Nat := 16

/-- Why bytes are no frame. -/
inductive DecodeFault where
  /-- The decoder holds more bytes than its limit. -/
  | bufferTooLarge
  /-- A header line is empty. -/
  | emptyHeader
  /-- A header line opens with a byte that is no marker. -/
  | unknownMarker (byte : UInt8)
  /-- A header's number is not UTF-8. -/
  | notText (fault : Utf8.Fault)
  /-- A header's number is no number. -/
  | notNumber (fault : Decimal.Fault)
  /-- A bulk string's length is above the limit. -/
  | bulkTooLong
  /-- An array's length is above what the limit can hold. -/
  | arrayTooLong
  /-- An array opens inside `maxDepth` others. -/
  | tooDeep
  deriving DecidableEq, Repr

/-- The wording of a fault. A byte that is no marker is shown as the Latin-1
character of its value. -/
def DecodeFault.message : DecodeFault → String
  | bufferTooLarge => "Buffer size exceeded maximum frame size"
  | emptyHeader => "empty frame header"
  | unknownMarker byte => s!"unknown frame type: {Char.ofNat byte.toNat}"
  | notText fault => fault.message
  | notNumber fault => fault.message
  | bulkTooLong => "Bulk string length exceeds maximum frame size"
  | arrayTooLong => "Array length exceeds reasonable maximum"
  | tooDeep => s!"arrays nested deeper than {maxDepth} levels"

/-- What one header line stands for, together with its payload. -/
inductive Token where
  /-- A whole frame. -/
  | value (frame : Frame)
  /-- The opening of an array whose elements follow. -/
  | arrayStart (length : Nat)

namespace Token

/-- The number of a header. -/
def readNumber (body : Bytes) : Except DecodeFault Int64 :=
  match Utf8.decode body with
  | .error fault => .error (.notText fault)
  | .ok chars => (Decimal.readInt64 chars).mapError .notNumber

/-- The bulk string of a stated length, and what follows it and the two bytes
behind it. A negative length is the null. -/
def readBulk (limit : Nat) (length : Int64) (bytes : Bytes) :
    Except DecodeFault (Option (Token × Bytes)) :=
  if length < 0 then .ok (some (.value .nullBulk, bytes))
  else
    let n := length.toInt.toNat
    if limit < n then .error .bulkTooLong
    else if bytes.length < n + 2 then .ok none
    else .ok (some (.value (.bulk (bytes.take n)), bytes.drop (n + 2)))

/-- The opening of an array of a stated length. A negative length is the null,
and an array without elements is whole at once. -/
def readArray (limit : Nat) (length : Int64) : Except DecodeFault Token :=
  if length < 0 then .ok (.value .nullArray)
  else
    let n := length.toInt.toNat
    if limit / elementSize < n then .error .arrayTooLong
    else if n = 0 then .ok (.value (.array []))
    else .ok (.arrayStart n)

/-- The token of a header line, given as marker and body, and what follows it
in the bytes after the line; nothing if the payload is not all there. -/
def ofHeader (limit : Nat) (marker : Marker) (body bytes : Bytes) :
    Except DecodeFault (Option (Token × Bytes)) :=
  match marker with
  | .simple => .ok (some (.value (.simple body), bytes))
  | .error => .ok (some (.value (.error body), bytes))
  | .integer => do
    let n ← readNumber body
    return some (.value (.integer n), bytes)
  | .bulk => do
    let n ← readNumber body
    readBulk limit n bytes
  | .array => do
    let n ← readNumber body
    let token ← readArray limit n
    return some (token, bytes)

/-- The first token and what follows it; nothing if it is not all there. -/
def read (limit : Nat) (bytes : Bytes) : Except DecodeFault (Option (Token × Bytes)) :=
  match bytes.splitLine with
  | none => .ok none
  | some ([], _) => .error .emptyHeader
  | some (first :: body, rest) =>
    match Marker.ofByte? first with
    | none => .error (.unknownMarker first)
    | some marker => ofHeader limit marker body rest

/-- What follows a bulk string is no longer than what its length stood before. -/
theorem length_le_of_readBulk {limit : Nat} {length : Int64} {bytes rest : Bytes} {token : Token}
    (h : readBulk limit length bytes = .ok (some (token, rest))) : rest.length ≤ bytes.length := by
  unfold readBulk at h
  split at h
  · simp_all
  · grind

/-- What follows a header's token is no longer than what the line stood before. -/
theorem length_le_of_ofHeader {limit : Nat} {marker : Marker} {body bytes rest : Bytes}
    {token : Token} (h : ofHeader limit marker body bytes = .ok (some (token, rest))) :
    rest.length ≤ bytes.length := by
  cases marker with
  | simple => simp_all [ofHeader]
  | error => simp_all [ofHeader]
  | integer =>
    cases hn : readNumber body <;> simp_all [ofHeader, bind, Except.bind, pure, Except.pure]
  | bulk =>
    cases hn : readNumber body with
    | error fault => simp [ofHeader, hn, bind, Except.bind] at h
    | ok n =>
      simp only [ofHeader, hn, bind, Except.bind] at h
      exact length_le_of_readBulk h
  | array =>
    cases hn : readNumber body with
    | error fault => simp [ofHeader, hn, bind, Except.bind] at h
    | ok n =>
      cases ha : readArray limit n <;>
        simp_all [ofHeader, bind, Except.bind, pure, Except.pure]

/-- Reading a token uses bytes up. -/
theorem length_lt_of_read {limit : Nat} {bytes rest : Bytes} {token : Token}
    (h : read limit bytes = .ok (some (token, rest))) : rest.length < bytes.length := by
  unfold read at h
  split at h
  · simp at h
  · simp at h
  · rename_i first body after hline
    split at h
    · simp at h
    · exact Nat.lt_of_le_of_lt (length_le_of_ofHeader h) (Bytes.length_lt_of_splitLine hline)

end Token

/-- An array that is not yet full. -/
structure PartialArray where
  /-- How many elements are still to come. -/
  remaining : Nat
  /-- The elements that have come, the latest first. -/
  latest : List Frame
  deriving Inhabited, Repr

/-- Where a value goes that has just become whole. -/
inductive Filing where
  /-- It is in no array: it is the frame itself. -/
  | whole (frame : Frame)
  /-- It is filed, and these arrays are still open. -/
  | filed (stack : List PartialArray)

/-- Files a value into the innermost open array. An array that becomes full is
itself a value for the array around it. -/
def Filing.of (value : Frame) : List PartialArray → Filing
  | [] => .whole value
  | top :: outer =>
    if top.remaining ≤ 1 then Filing.of (.array (value :: top.latest).reverse) outer
    else .filed (⟨top.remaining - 1, value :: top.latest⟩ :: outer)

/-- A reader of frames from bytes that arrive in pieces. -/
structure Decoder where
  /-- The largest number of bytes it may hold. -/
  limit : Nat := defaultLimit
  /-- The bytes that no finished frame has used up. -/
  buffer : Bytes := []
  /-- How many of them have been read into the arrays that are open. -/
  position : Nat := 0
  /-- The arrays that are open, the innermost first. -/
  stack : List PartialArray := []
  deriving Inhabited, Repr

namespace Decoder

/-- How far reading came. -/
inductive Progress where
  /-- The bytes ran out; these arrays are open and these bytes unread. -/
  | waiting (stack : List PartialArray) (rest : Bytes)
  /-- A frame is whole, and these bytes follow it. -/
  | complete (frame : Frame) (rest : Bytes)
  /-- The bytes are no frame. -/
  | failed (fault : DecodeFault)

/-- Reads tokens until a frame is whole or the bytes run out. -/
def advance (limit : Nat) (stack : List PartialArray) (bytes : Bytes) : Progress :=
  match _hread : Token.read limit bytes with
  | .error fault => .failed fault
  | .ok none => .waiting stack bytes
  | .ok (some (.arrayStart length, rest)) =>
    if maxDepth ≤ stack.length then .failed .tooDeep
    else advance limit (⟨length, []⟩ :: stack) rest
  | .ok (some (.value frame, rest)) =>
    match Filing.of frame stack with
    | .whole frame => .complete frame rest
    | .filed stack => advance limit stack rest
termination_by bytes.length
decreasing_by all_goals exact Token.length_lt_of_read _hread

/-- A frame uses bytes up. -/
theorem length_lt_of_advance {limit : Nat} {stack : List PartialArray} {bytes rest : Bytes}
    {frame : Frame} (h : advance limit stack bytes = .complete frame rest) :
    rest.length < bytes.length := by
  fun_induction advance limit stack bytes with
  | case1 | case2 | case3 => simp at h
  | case4 stack bytes length after hread _ ih =>
    exact Nat.lt_trans (ih h) (Token.length_lt_of_read hread)
  | case5 stack bytes value after hread whole hfile =>
    simp only [Progress.complete.injEq] at h
    exact h.2 ▸ Token.length_lt_of_read hread
  | case6 stack bytes value after hread filed hfile ih =>
    exact Nat.lt_trans (ih h) (Token.length_lt_of_read hread)

/-- Adds bytes that have arrived. -/
def append (d : Decoder) (data : Bytes) : Decoder := { d with buffer := d.buffer ++ data }

/-- The next frame, or nothing as long as more bytes are needed. A fault leaves
the bytes in place and forgets what had been read of them. -/
def decode (d : Decoder) : Except DecodeFault (Option Frame) × Decoder :=
  if d.buffer.isEmpty then (.ok none, d)
  else if d.limit < d.buffer.length then (.error .bufferTooLarge, d)
  else
    match advance d.limit d.stack (d.buffer.drop d.position) with
    | .waiting stack rest =>
      (.ok none, { d with position := d.buffer.length - rest.length, stack })
    | .complete frame rest =>
      (.ok (some frame), { d with buffer := rest, position := 0, stack := [] })
    | .failed fault => (.error fault, { d with position := 0, stack := [] })

/-- A frame leaves fewer bytes in the buffer. -/
theorem length_buffer_lt_of_decode {d d' : Decoder} {frame : Frame}
    (h : d.decode = (.ok (some frame), d')) : d'.buffer.length < d.buffer.length := by
  unfold decode at h
  split at h
  · simp at h
  · split at h
    · simp at h
    · split at h
      · simp at h
      · rename_i f rest hadv
        simp only [Prod.mk.injEq] at h
        rw [← h.2]
        have := length_lt_of_advance hadv
        simp only [List.length_drop] at this
        change rest.length < d.buffer.length
        omega
      · simp at h

/-- Where a frame is not complete, all bytes stay and there is room for more. -/
theorem keeps_of_decode_none {d d' : Decoder} (h : d.decode = (.ok none, d')) :
    d'.limit = d.limit ∧ d'.buffer = d.buffer ∧ d.buffer.length ≤ d.limit := by
  unfold decode at h
  split at h
  · simp_all
  · split at h
    · simp at h
    · split at h
      · simp only [Prod.mk.injEq, true_and] at h
        rw [← h]
        exact ⟨rfl, rfl, by omega⟩
      · simp at h
      · simp at h

/-- How a run of frames ends. -/
inductive Ending where
  /-- More bytes are needed. -/
  | more
  /-- The bytes are no frame. -/
  | fault (fault : DecodeFault)
  deriving DecidableEq, Repr

/-- Every frame that is complete, and what came instead of one more. -/
def drain (d : Decoder) : (List Frame × Ending) × Decoder :=
  match _hdecode : d.decode with
  | (.ok (some frame), d') =>
    let ((frames, ending), last) := drain d'
    ((frame :: frames, ending), last)
  | (.ok none, d') => (([], .more), d')
  | (.error fault, d') => (([], .fault fault), d')
termination_by d.buffer.length
decreasing_by exact length_buffer_lt_of_decode _hdecode

end Decoder

end RedisClient
