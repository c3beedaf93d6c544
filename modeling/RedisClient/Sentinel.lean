import RedisClient.Connection
import RedisClient.Sentinel.Server

/-!
# Sentinels

A sentinel watches masters and their replicas. A `Sentinel` is a connection of
its own to one of them, on a client that the connection to the server opened;
`Connection.openSentinel` tries the configured sentinels in order.
-/

namespace RedisClient

/-- A connection to a sentinel. -/
structure Sentinel (C : Type) where
  /-- The client. -/
  client : C
  /-- The sentinel. -/
  node : Node
  /-- Whether the client has been given back. -/
  closed : Bool := false

namespace Sentinel

variable {C E α : Type}

/-- The inspection text of a connection to a sentinel. -/
def inspect (sentinel : Sentinel C) : String :=
  Inspect.record "SentinelConnection"
    [("node", sentinel.node.inspect), ("closed", Inspect.bool sentinel.closed)]

/-- Runs a step of the client. -/
def onClient (step : Step (C × E) α) : Step (Sentinel C × E) α :=
  step.focus client fun client sentinel => { sentinel with client }

variable [Client C E]

/-- Runs an administrative command. -/
def administer (words : List String) (read : Frame → Except Error α) :
    Step (Sentinel C × E) α := do
  let sentinel := (← get).1
  if sentinel.closed then throw (.misuse (.sentinelClosed sentinel.node))
  onClient (Client.ask (words.foldl Command.text (.named "SENTINEL")) read)

/-- Makes a replica of a master the new master. -/
def failover (master : String) : Step (Sentinel C × E) Unit := do
  let master ← ofExcept (Validation.notBlank "master name" master)
  administer ["FAILOVER", master] Frame.readStatus

/-- The masters that the sentinel watches. -/
def masters : Step (Sentinel C × E) (List Server) :=
  administer ["MASTERS"] Server.listOfFrame

/-- The replicas of a master. -/
def replicas (master : String) : Step (Sentinel C × E) (List Server) := do
  let master ← ofExcept (Validation.notBlank "master name" master)
  administer ["SLAVES", master] Server.listOfFrame

/-- Ends watching a master. -/
def remove (master : String) : Step (Sentinel C × E) Unit := do
  let master ← ofExcept (Validation.notBlank "master name" master)
  administer ["REMOVE", master] Frame.readStatus

/-- Starts watching a master, which needs a quorum. -/
def monitor (server : Server) : Step (Sentinel C × E) Unit := do
  let name ← ofExcept (Validation.notBlank "master name" server.name)
  let host ← ofExcept (Validation.notBlank "host" server.node.host)
  let some quorum := server.quorum | throw (.invalidArgument .quorumMissing)
  administer
    ["MONITOR", name, host, Decimal.natText server.node.port.toNat, Decimal.natText quorum.toNat]
    Frame.readStatus

/-- Gives the client back. A closed connection is left as it is. -/
def close : Step (Sentinel C × E) Unit := do
  if (← get).1.closed then return
  modify fun (sentinel, env) => ({ sentinel with closed := true }, env)
  onClient Client.quit

/-- Closes the connection, whatever that comes to. -/
def release : Step (Sentinel C × E) Unit := do
  let _ ← Step.attempt close

/-- Opens a connection to a sentinel that answers. A client whose sentinel does
not is given back. -/
def reached? (opener : C) (node : Node) (env : E) : Option (Sentinel C) × E :=
  match Client.openSentinel opener node env with
  | (.error _, env) => (none, env)
  | (.ok client, env) =>
    match Client.execute .ping (client, env) with
    | .ok _ (client, env) => (some { client, node }, env)
    | .error _ (client, env) =>
      let (_, _, env) := Step.outcome Client.quit (client, env)
      (none, env)

/-- Opens a connection to the first sentinel that answers. -/
def firstReached? (opener : C) : List Node → E → Option (Sentinel C) × E
  | [], env => (none, env)
  | node :: rest, env =>
    match reached? opener node env with
    | (some sentinel, env) => (some sentinel, env)
    | (none, env) => firstReached? opener rest env

end Sentinel

/-- Opens a connection to the first of the configured sentinels that answers.
This connection stays as it is. -/
def Connection.openSentinel {C E : Type} [Client C E] :
    Step (Connection C × E) (Sentinel C) := do
  let connection := (← get).1
  let some group := connection.sentinel | throw (.resourceUsage .noSentinels)
  ensureOpen
  let found ← modifyGet fun (whole, env) =>
    let (found, env) := Sentinel.firstReached? connection.client group.nodes env
    (found, (whole, env))
  match found with
  | some sentinel => return sentinel
  | none => throw (.resourceUsage (.noneReachable group.master))

end RedisClient
