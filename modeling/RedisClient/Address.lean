import RedisClient.Error
import RedisClient.Text.Blank
import RedisClient.Text.Cut

/-!
# Reading node addresses

A node is written as a host, or as a host and a port with a colon between them.
The host may hold colons itself, so the last colon is the one that counts.
-/

namespace RedisClient

namespace Node

/-- The host and the port of an address without white space around it. -/
def readParts (address : List Char) (defaultPort : UInt16) :
    Except ArgumentFault (List Char × UInt16) :=
  match splitLast ':' address with
  | none => .ok (address, defaultPort)
  | some (host, port) =>
    match Decimal.readUInt16 port with
    | .ok port => .ok (host, port)
    | .error _ => .error (.portInvalid (.ofList address))

/-- Reads `host` or `host:port`. White space around the address is dropped. A
port that is no port is reported before a host that is missing. -/
def read (address : String) (defaultPort : UInt16) : Except Error Node := do
  let address := Blank.trim address.toList
  let (host, port) ← (readParts address defaultPort).mapError .invalidArgument
  if host.isEmpty then throw (.invalidArgument (.nodeHostMissing (.ofList address)))
  return ⟨.ofList host, port⟩

end Node

end RedisClient
