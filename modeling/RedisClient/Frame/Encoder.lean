import RedisClient.Frame
import RedisClient.Number.Decimal
import RedisClient.Text.Utf8

/-!
# Writing frames

`Frame.encode` is the wire form of a frame. An `Encoder` collects wire forms
until they are taken, which is how a batch of commands leaves in one piece.
-/

namespace RedisClient

/-- A header line: a marker, a number, the line end. -/
def Marker.header (m : Marker) (n : Int) : Bytes :=
  m.byte :: Utf8.encode (Decimal.intText n) ++ lineEnd

/-- A text line: a marker, the text, the line end. -/
def Marker.line (m : Marker) (text : Bytes) : Bytes := m.byte :: text ++ lineEnd

namespace Frame

/-- The wire form of a bulk string: its length, then its bytes. -/
def encodeBulk (data : Bytes) : Bytes := Marker.bulk.header data.length ++ data ++ lineEnd

mutual

/-- The wire form of a frame. -/
def encode : Frame → Bytes
  | simple text => Marker.simple.line text
  | error text => Marker.error.line text
  | integer n => Marker.integer.header n.toInt
  | bulk data => encodeBulk data
  | nullBulk => Marker.bulk.header (-1)
  | array items => Marker.array.header items.length ++ encodeAll items
  | nullArray => Marker.array.header (-1)

/-- The wire forms of frames, one after the other. -/
def encodeAll : List Frame → Bytes
  | [] => []
  | item :: rest => encode item ++ encodeAll rest

end

/-- The wire form of a command, given as its words. -/
def encodeWords (words : List Bytes) : Bytes :=
  Marker.array.header words.length ++ words.flatMap encodeBulk

/-- A command's wire form is that of the array of its words. -/
theorem encode_ofWords (words : List Bytes) : encode (ofWords words) = encodeWords words := by
  have h : ∀ ws : List Bytes, encodeAll (ws.map bulk) = ws.flatMap encodeBulk := by
    intro ws
    induction ws with
    | nil => rfl
    | cons w rest ih => simp [encodeAll, encode, ih]
  simp [ofWords, encode, encodeWords, h]

end Frame

/-- Wire forms that wait to be taken. -/
structure Encoder where
  /-- The bytes that wait. -/
  waiting : Bytes := []
  deriving DecidableEq, Repr, Inhabited

namespace Encoder

/-- How many bytes wait. -/
def pending (e : Encoder) : Nat := e.waiting.length

/-- Adds a frame. -/
def addFrame (e : Encoder) (frame : Frame) : Encoder := ⟨e.waiting ++ frame.encode⟩

/-- Adds a command, given as its words. -/
def addWords (e : Encoder) (words : List Bytes) : Encoder :=
  ⟨e.waiting ++ Frame.encodeWords words⟩

/-- Takes all bytes that wait. -/
def take (e : Encoder) : Bytes × Encoder := (e.waiting, {})

end Encoder

end RedisClient
