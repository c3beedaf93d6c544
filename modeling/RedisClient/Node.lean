import RedisClient.Number.Decimal
import RedisClient.Text.Inspect

/-!
# Nodes

A node is the address of a server or of a sentinel: a host and a port, written
with a colon between them.
-/

namespace RedisClient

/-- The address of a server. -/
structure Node where
  /-- A host name or an IP address. -/
  host : String
  /-- A TCP port. -/
  port : UInt16
  deriving DecidableEq, Repr, Inhabited

namespace Node

/-- The port of a server if none is given. -/
def serverPort : UInt16 := 6379

/-- The port of a sentinel if none is given. -/
def sentinelPort : UInt16 := 26379

/-- The written form, `host:port`. -/
def text (node : Node) : String := node.host ++ ":" ++ Decimal.natText node.port.toNat

/-- The inspection text of a node. -/
def inspect (node : Node) : String :=
  Inspect.record "RedisNode"
    [("host", Inspect.text node.host), ("port", Inspect.nat node.port.toNat)]

end Node

/-- The sentinels that watch a master, in the order in which they are tried. -/
structure SentinelGroup where
  /-- The name under which the master is watched. -/
  master : String
  /-- The sentinels. -/
  nodes : List Node
  deriving DecidableEq, Repr, Inhabited

/-- The inspection text of a sentinel group. -/
def SentinelGroup.inspect (group : SentinelGroup) : String :=
  Inspect.record "SentinelConfig"
    [("master_name", Inspect.text group.master),
      ("nodes", Inspect.list (group.nodes.map Node.inspect))]

end RedisClient
