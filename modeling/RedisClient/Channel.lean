import RedisClient.Frame.Decoder
import RedisClient.Frame.Encoder
import RedisClient.Step
import RedisClient.Stream

/-!
# Channels

A channel carries commands and frames over a byte stream. Commands collect in
an encoder until they are flushed, so that several of them leave together.
Frames are read from whatever pieces the stream delivers; bytes that follow a
frame stay for the next.
-/

namespace RedisClient

/-- How many bytes one read asks for. -/
def readSize : Nat := 4096

/-- A channel over a stream. Spans of time are in milliseconds. -/
structure Channel (S : Type) where
  /-- The stream. -/
  stream : S
  /-- What has been read and is not yet a frame. -/
  decoder : Decoder := {}
  /-- What is to be written. -/
  encoder : Encoder := {}
  /-- How long a frame may take. -/
  readTimeout : Option Nat := none
  /-- How long a flush may take. -/
  writeTimeout : Option Nat := none

namespace Channel

variable {S α : Type}

/-- The inspection text of a channel. -/
def inspect (c : Channel S) : String :=
  Inspect.record "Connection"
    [("pending_bytes", Inspect.nat c.encoder.pending),
      ("read_timeout", Inspect.option Inspect.duration c.readTimeout),
      ("write_timeout", Inspect.option Inspect.duration c.writeTimeout)]

/-- Runs a step of the stream under a time limit. -/
def onStream (limit : Option Nat) (step : EStateM StreamFault S α) : Step (Channel S) α :=
  fun c =>
    match step c.stream with
    | .ok a stream => .ok a { c with stream }
    | .error fault stream => .error (fault.toError limit) { c with stream }

/-- Collects a command, given as its words. -/
def buffer (words : List Bytes) : Step (Channel S) Unit :=
  modify fun c => { c with encoder := c.encoder.addWords words }

/-- Takes out what has been collected. -/
def takeBuffered : Step (Channel S) Bytes :=
  modifyGet fun c =>
    let (data, encoder) := c.encoder.take
    (data, { c with encoder })

variable [ByteStream S]

/-- Writes what has been collected. What a failed write leaves over is lost. -/
def flush : Step (Channel S) Unit := do
  let data ← takeBuffered
  if data.isEmpty then return
  let limit := (← get).writeTimeout
  onStream limit do
    ByteStream.writeAll limit data
    ByteStream.flush limit

/-- Writes a command behind what has been collected. -/
def send (words : List Bytes) : Step (Channel S) Unit := do
  buffer words
  flush

/-- Reads the next frame. -/
def receive : Step (Channel S) Frame := fun c =>
  match _hdecode : c.decoder.decode with
  | (.ok (some frame), decoder) => .ok frame { c with decoder }
  | (.error fault, decoder) => .error (.protocol (.malformed fault)) { c with decoder }
  | (.ok none, decoder) =>
    match ByteStream.read c.readTimeout readSize c.stream with
    | .error fault stream => .error (fault.toError c.readTimeout) { c with decoder, stream }
    | .ok [] stream =>
      .error (.io ⟨.unexpectedEnd, some "connection closed by server"⟩) { c with decoder, stream }
    | .ok (first :: rest) stream =>
      receive { c with stream, decoder := decoder.append (first :: rest) }
termination_by c => c.decoder.limit + 1 - c.decoder.buffer.length
decreasing_by
  obtain ⟨hlimit, hbuffer, hle⟩ := Decoder.keeps_of_decode_none _hdecode
  simp only [Decoder.append, hlimit, hbuffer, List.length_append, List.length_cons]
  omega

/-- A frame that has been read already needs nothing of the stream. -/
theorem receive_of_frame {c : Channel S} {frame : Frame} {decoder : Decoder}
    (h : c.decoder.decode = (.ok (some frame), decoder)) :
    receive c = .ok frame { c with decoder } := by
  rw [receive]
  split <;> simp_all

/-- Nor does a fault in what has been read. -/
theorem receive_of_fault {c : Channel S} {fault : DecodeFault} {decoder : Decoder}
    (h : c.decoder.decode = (.error fault, decoder)) :
    receive c = .error (.protocol (.malformed fault)) { c with decoder } := by
  rw [receive]
  split <;> simp_all

/-- Where more bytes are needed, what one read brings is added to them. -/
theorem receive_of_read {c : Channel S} {decoder : Decoder} {stream : S} {first : UInt8}
    {rest : Bytes} (h : c.decoder.decode = (.ok none, decoder))
    (hread : ByteStream.read c.readTimeout readSize c.stream = .ok (first :: rest) stream) :
    receive c = receive { c with stream, decoder := decoder.append (first :: rest) } := by
  rw [receive]
  split <;> simp_all

/-- Reads the next frames. -/
def receiveMany : Nat → Step (Channel S) (List Frame)
  | 0 => return []
  | count + 1 => do
    let frame ← receive
    return frame :: (← receiveMany count)

/-- Writes a command and reads a frame. -/
def exchange (words : List Bytes) : Step (Channel S) Frame := do
  send words
  receive

/-- Ends writing. -/
def shutdown : Step (Channel S) Unit := fun c =>
  match (ByteStream.shutdown : EStateM IoFailure S Unit) c.stream with
  | .ok _ stream => .ok () { c with stream }
  | .error failure stream => .error (.io failure) { c with stream }

end Channel

end RedisClient
