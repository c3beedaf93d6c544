import RedisClient.Bytes

/-!
# URLs

The parts of a URL that the address of a server is made of: scheme, user,
password, host, port and path. What reads URLs is a parameter
(`Url.Reader`): anything that has the operations here will do.
-/

namespace RedisClient

/-- The parts of a URL. -/
structure Url where
  /-- The scheme, in lower case. -/
  scheme : String
  /-- The user, as written. -/
  user : List Char := []
  /-- The password, as written, if there is one. -/
  password : Option (List Char) := none
  /-- The host, if there is one. -/
  host : Option (List Char) := none
  /-- The port, if one is given. -/
  port : Option UInt16 := none
  /-- The path in its normal form. -/
  path : List Char := []
  deriving DecidableEq, Repr

/-- The operations of what reads URLs. -/
class Url.Reader where
  /-- Reads a URL. Nothing is read of a malformed one. -/
  parse : String → Option Url
  /-- The bytes that a percent-encoded byte string stands for. -/
  percentDecode : Bytes → Bytes

end RedisClient
