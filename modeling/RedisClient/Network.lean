import RedisClient.Node
import RedisClient.Stream

/-!
# Networks

A network opens streams to nodes. On a machine without one, every attempt fails
before a stream comes into being.
-/

namespace RedisClient

/-- The operation of networks `N`, whose streams have the type `S`. -/
class Network (S : Type) (N : outParam Type) where
  /-- Opens a stream to a node in the time given, if it is limited. -/
  dial : Node → (limit : Option Nat) → N → Except StreamFault S × N

/-- The streams of a machine without a network, of which there are none. -/
instance : ByteStream Empty where
  read _ _ := fun s => nomatch s
  write _ _ := fun s => nomatch s
  flush _ := fun s => nomatch s
  shutdown := fun s => nomatch s

/-- A machine without a network. -/
inductive Offline where
  | offline
  deriving DecidableEq, Repr, Inhabited

/-- Every dial fails. -/
instance : Network Empty Offline where
  dial _ _ network := (.error (.failed { kind := .networkUnreachable }), network)

end RedisClient
