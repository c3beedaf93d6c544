import RedisClient.Node
import RedisClient.Reply.Reading

/-!
# Servers

A server as a sentinel describes it: its name, its address, how many sentinels
have to agree that it is down, and whatever else the sentinel reports.
-/

namespace RedisClient

/-- A server that sentinels watch. -/
structure Server where
  /-- The name of a master; a replica has none and leaves it empty. -/
  name : String
  /-- Its address. -/
  node : Node
  /-- How many sentinels have to agree that it is down. -/
  quorum : Option UInt32
  /-- All that is reported about it. -/
  properties : Dictionary String String := .empty

namespace Server

/-- A master that is to be watched. -/
def master (name : String) (node : Node) (quorum : UInt32) : Server :=
  { name, node, quorum := some quorum }

/-- The server that a sentinel reports these properties of. -/
def ofProperties (properties : Dictionary String String) : Except ProtocolFault Server := do
  let some host := properties.get? "ip" | throw .addressMissing
  let port? := (properties.get? "port").bind fun digits =>
    (Decimal.readUInt16 digits.toList).toOption
  let some port := port? | throw .portMissing
  return {
    name := (properties.get? "name").getD ""
    node := ⟨host, port⟩
    quorum := (properties.get? "quorum").bind fun digits =>
      (Decimal.readUInt32 digits.toList).toOption
    properties }

/-- A server from a flat array of fields and values. -/
def ofFrame (frame : Frame) : Except Error Server := do
  let fields ← frame.readMap
  let texts := fields.entries.map fun (field, value) =>
    (Utf8.decodeLossy field, Utf8.decodeLossy value)
  (ofProperties (.ofPairs texts)).mapError .protocol

/-- Servers from an array of such arrays. -/
def listOfFrame (frame : Frame) : Except Error (List Server) := do
  (← frame.readItems).mapM ofFrame

end Server

end RedisClient
