import RedisClient.Bytes
import RedisClient.Error

/-!
# Byte streams

A byte stream to a server is read and written in pieces of its own choosing.
Anything that has the operations here can carry a channel. Reads and writes are
given the time that is left for them, in milliseconds, if it is limited.
-/

namespace RedisClient

/-- Why a stream does not go on. -/
inductive StreamFault where
  /-- The transport failed. -/
  | failed (failure : IoFailure)
  /-- The time was up. -/
  | late
  deriving DecidableEq, Repr

/-- The error of a fault under a time limit. A stream is late only where there
is one. -/
def StreamFault.toError (limit : Option Nat) : StreamFault → Error
  | failed failure => .io failure
  | late => .timeout (limit.getD 0)

/-- The operations of a byte stream. -/
class ByteStream (S : Type) where
  /-- Reads some bytes, at most as many as given. No bytes mean the end of the
  stream. -/
  read : (limit : Option Nat) → (size : Nat) → EStateM StreamFault S Bytes
  /-- Writes the first of some bytes and says how many they are. -/
  write : (limit : Option Nat) → Bytes → EStateM StreamFault S Nat
  /-- Sends on what has been written. -/
  flush : (limit : Option Nat) → EStateM StreamFault S Unit
  /-- Ends writing. -/
  shutdown : EStateM IoFailure S Unit

namespace ByteStream

variable {S : Type} [ByteStream S]

/-- Writes all of some bytes. A stream that takes none of them has failed. -/
def writeAll (limit : Option Nat) : Bytes → EStateM StreamFault S Unit
  | [] => return
  | first :: rest => do
    let count ← write limit (first :: rest)
    if _hzero : count = 0 then throw (.failed ⟨.writeZero, some IoKind.writeZero.description⟩)
    else writeAll limit ((first :: rest).drop count)
termination_by data => data.length
decreasing_by
  simp only [List.length_drop, List.length_cons]
  omega

end ByteStream

end RedisClient
