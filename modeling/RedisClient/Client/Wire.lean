import RedisClient.Client
import RedisClient.Client.Handshake
import RedisClient.Network

/-!
# Wire clients

A wire client talks to a server over a stream. Replies come in the order of the
commands, so a client that loses its place in the stream, be it by a failure of
the transport, by a time limit or by bytes that are no frame, is broken: it
refuses all further commands and can only be released.
-/

namespace RedisClient

/-- Whether a client can be used. -/
inductive Standing where
  /-- It can; this many commands are kept back. -/
  | usable (queued : Nat)
  /-- It has lost its place in the stream. -/
  | broken
  /-- It has given its stream back, and whether it was broken before. -/
  | released (broken : Bool)
  deriving DecidableEq, Repr

/-- A client over a stream. -/
structure WireClient (S : Type) where
  /-- What it was opened with. -/
  config : Config
  /-- The channel over the stream. -/
  channel : Channel S
  /-- Whether it can be used. -/
  standing : Standing := .usable 0

namespace WireClient

variable {S N α : Type}

/-- How many commands are kept back. -/
def queued (client : WireClient S) : Nat :=
  match client.standing with
  | .usable count => count
  | .broken | .released _ => 0

/-- Whether the client has lost its place in the stream. -/
def isBroken (client : WireClient S) : Bool :=
  match client.standing with
  | .usable _ => false
  | .broken => true
  | .released broken => broken

/-- Whether the client has given its stream back. -/
def isReleased (client : WireClient S) : Bool :=
  match client.standing with
  | .usable _ | .broken => false
  | .released _ => true

/-- The inspection text of a client. -/
def inspect (client : WireClient S) : String :=
  Inspect.record "RespClient"
    [("node", client.config.node.inspect), ("connection", client.channel.inspect),
      ("queued", Inspect.nat client.queued), ("released", Inspect.bool client.isReleased),
      ("broken", Inspect.bool client.isBroken)]

/-- Runs a step of the channel. -/
def onChannel (step : Step (Channel S) α) : Step (WireClient S × N) α := fun (client, net) =>
  match step client.channel with
  | .ok a channel => .ok a ({ client with channel }, net)
  | .error error channel => .error error ({ client with channel }, net)

/-- Changes whether the client can be used. -/
def stand (standing : Standing) : Step (WireClient S × N) Unit :=
  modify fun (client, net) => ({ client with standing }, net)

/-- How many commands are kept back, if the client can be used at all. -/
def ensureUsable : Step (WireClient S × N) Nat := do
  let client := (← get).1
  match client.standing with
  | .usable count => return count
  | .broken => throw (.misuse (.broken client.config.node))
  | .released _ => throw (.misuse (.released client.config.node))

/-- Whether an error leaves the place in the stream unknown. -/
def losesPlace : Error → Bool
  | .io _ | .timeout _ | .protocol _ => true
  | .server _ | .auth | .invalidArgument _ | .unsupported _ | .resourceUsage _ | .misuse _ => false

/-- Runs a step of the channel. The client is broken if the step loses its
place. -/
def guarded (step : Step (Channel S) α) : Step (WireClient S × N) α := do
  match ← Step.attempt (onChannel step) with
  | .ok a => return a
  | .error error =>
    if losesPlace error then stand .broken
    throw error

variable [ByteStream S] [Network S N]

/-- Opens a client: dials, and greets the server. Secure streams cannot be had. -/
def connect (config : Config) (net : N) : Except Error (WireClient S) × N :=
  match Network.dial config.node config.connectTimeout net with
  | (.error fault, net) => (.error (fault.toError config.connectTimeout), net)
  | (.ok stream, net) =>
    if config.tls then (.error (.invalidArgument .secureUnavailable), net)
    else
      let channel : Channel S :=
        { stream, readTimeout := config.readTimeout, writeTimeout := config.writeTimeout }
      match Channel.greet config.greetings channel with
      | .ok _ channel => (.ok { config, channel }, net)
      | .error error _ => (.error error, net)

instance : Client (WireClient S) N where
  queued := queued
  execute command := do
    let count ← ensureUsable
    if count ≠ 0 then throw (.misuse (.commandsQueued count))
    let frame ← guarded (Channel.exchange command.words)
    ofExcept frame.toResult
  queue command := do
    let count ← ensureUsable
    onChannel (Channel.buffer command.words)
    stand (.usable (count + 1))
  sync := do
    let count ← ensureUsable
    stand (.usable 0)
    let frames ← guarded do
      Channel.flush
      Channel.receiveMany count
    return frames.map Frame.toResult
  quit := do
    match (← get).1.standing with
    | .released _ => return
    | .broken =>
      stand (.released true)
      let _ ← Step.attempt (onChannel Channel.shutdown)
    | .usable _ =>
      stand (.released false)
      let reply ← onChannel do
        Channel.send (Command.named "QUIT").words
        let reply ← Step.attempt Channel.receive
        Channel.shutdown
        return reply
      let _ ← ofExcept (reply >>= Frame.toResult)
  openSentinel client node net := connect (client.config.forSentinel node) net

end WireClient

end RedisClient
