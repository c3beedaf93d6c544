import RedisClient.Network
import RedisClient.Stream.Scripted

/-!
# Scripted networks

A scripted network has no nodes. What its dials give is laid down beforehand
and used up in order; past the end every dial is refused. It keeps the nodes
that were dialled.
-/

namespace RedisClient

/-- A network that follows a script. -/
structure ScriptedNetwork where
  /-- The streams, or why there are none. -/
  dials : List (Except StreamFault ScriptedStream) := []
  /-- The nodes that were dialled, the earliest first. -/
  dialled : List Node := []

instance : Network ScriptedStream ScriptedNetwork where
  dial node _ network :=
    (network.dials.head?.getD (.error (.failed { kind := .connectionRefused })),
      { dials := network.dials.tail, dialled := network.dialled ++ [node] })

end RedisClient
