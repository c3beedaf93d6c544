import RedisClient.Stream

/-!
# Scripted streams

A scripted stream has no other end. What its reads bring and what becomes of its
writes is laid down beforehand and used up in order. Past the end of a script,
reads find the end of the stream and everything else goes well. The stream
keeps what it has taken and how it was flushed and shut down.
-/

namespace RedisClient

/-- A call that a stream remembers. -/
inductive StreamCall where
  | flush
  | shutdown
  deriving DecidableEq, Repr

/-- A stream that follows a script. -/
structure ScriptedStream where
  /-- What arrives, or why nothing does. -/
  reads : List (Except StreamFault Bytes) := []
  /-- How many bytes are taken at most, if that is limited, or why none are. -/
  writes : List (Except StreamFault (Option Nat)) := []
  /-- What becomes of flushes. -/
  flushes : List (Option IoFailure) := []
  /-- What becomes of shutdowns. -/
  shutdowns : List (Option IoFailure) := []
  /-- The bytes that were taken. -/
  written : Bytes := []
  /-- The flushes and shutdowns, the earliest first. -/
  calls : List StreamCall := []

namespace ScriptedStream

instance : ByteStream ScriptedStream where
  read _ size := fun s =>
    match s.reads with
    | [] => .ok [] s
    | .error fault :: reads => .error fault { s with reads }
    | .ok data :: reads =>
      let rest := data.drop size
      .ok (data.take size) { s with reads := if rest.isEmpty then reads else .ok rest :: reads }
  write _ data := fun s =>
    let writes := s.writes.tail
    match s.writes.head?.getD (.ok none) with
    | .error fault => .error fault { s with writes }
    | .ok most? =>
      let count := min data.length (most?.getD data.length)
      .ok count { s with writes, written := s.written ++ data.take count }
  flush _ := fun s =>
    let s' := { s with flushes := s.flushes.tail, calls := s.calls ++ [.flush] }
    match s.flushes.head?.join with
    | none => .ok () s'
    | some failure => .error (.failed failure) s'
  shutdown := fun s =>
    let s' := { s with shutdowns := s.shutdowns.tail, calls := s.calls ++ [.shutdown] }
    match s.shutdowns.head?.join with
    | none => .ok () s'
    | some failure => .error failure s'

end ScriptedStream

end RedisClient
