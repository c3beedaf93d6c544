import RedisClient.Client
import RedisClient.Config
import RedisClient.Request

/-!
# Connections

A connection runs requests on a client. At first each runs at once. While a
pipeline is open, requests are queued on the client and only what their replies
mean is kept here, in order; closing the pipeline collects the replies. A
request that is not fit for this is refused before the client hears of it, in a
fixed order: its arguments are checked, then that the connection is open, then
that the operation may wait. Most requests are dispatched, at once or into the
queue. Those about connections themselves and about replication have no way
into the queue and run directly.
-/

namespace RedisClient

/-- Whether requests run at once or wait. -/
inductive Mode where
  | direct
  | pipelined
  deriving DecidableEq, Repr

/-- The name of a mode. -/
def Mode.name : Mode → String
  | direct => "Direct"
  | pipelined => "Pipelined"

/-- Where a connection is in its life. Only an open pipeline has requests that
wait, and a closed connection stays closed. -/
inductive Phase where
  /-- Requests run at once. -/
  | direct
  /-- Requests wait; this is what the replies will mean. -/
  | pipelined (pending : List ReplyKind)
  /-- The client has been given back. -/
  | closed
  deriving DecidableEq, Repr

/-- A connection on a client. -/
structure Connection (C : Type) where
  /-- The client. -/
  client : C
  /-- Where the connection is in its life. -/
  phase : Phase := .direct
  /-- The sentinels that watch the server. -/
  sentinel : Option SentinelGroup := none

namespace Connection

variable {C E α : Type}

/-- Whether requests run at once or wait. -/
def mode (c : Connection C) : Mode :=
  match c.phase with
  | .pipelined _ => .pipelined
  | .direct | .closed => .direct

/-- What the replies to the requests that wait will mean. -/
def pending (c : Connection C) : List ReplyKind :=
  match c.phase with
  | .pipelined pending => pending
  | .direct | .closed => []

/-- Whether a pipeline is open. -/
def isPipelined (c : Connection C) : Bool := c.mode == .pipelined

/-- Whether the client has been given back. -/
def isClosed (c : Connection C) : Bool := c.phase == .closed

/-- The inspection text of a connection. -/
def inspect (c : Connection C) : String :=
  Inspect.record "RedisConnection"
    [("mode", c.mode.name), ("queued", Inspect.nat c.pending.length),
      ("sentinel", Inspect.option SentinelGroup.inspect c.sentinel),
      ("closed", Inspect.bool c.isClosed)]

/-- Runs a step of the client. -/
def onClient (step : Step (C × E) α) : Step (Connection C × E) α :=
  step.focus client fun client c => { c with client }

/-- Goes over to another phase. -/
def enter (phase : Phase) : Step (Connection C × E) Unit :=
  modify fun (c, env) => ({ c with phase }, env)

/-- The phase. -/
def getPhase : Step (Connection C × E) Phase := do return (← get).1.phase

/-- Refuses a closed connection. -/
def ensureOpen : Step (Connection C × E) Unit := do
  match ← getPhase with
  | .direct | .pipelined _ => return
  | .closed => throw (.misuse .connectionClosed)

/-- Refuses a closed connection, and while a pipeline is open an operation that
may not wait. -/
def permit (operation : Operation) : Step (Connection C × E) Unit := do
  match ← getPhase with
  | .direct => return
  | .pipelined _ => if operation.support = .unsupported then throw (.unsupported operation)
  | .closed => throw (.misuse .connectionClosed)

/-- Opens a pipeline, unless one is open. -/
def openPipeline : Step (Connection C × E) Unit := do
  match ← getPhase with
  | .direct => enter (.pipelined [])
  | .pipelined _ => return
  | .closed => throw (.misuse .connectionClosed)

variable [Client C E]

/-- Runs a command at once, or queues it while a pipeline is open. -/
def dispatch (operation : Operation) (command : Command) (kind : ReplyKind) :
    Step (Connection C × E) (Reply kind.Result) := do
  permit operation
  match ← getPhase with
  | .pipelined pending =>
    onClient (Client.queue command)
    enter (.pipelined (pending ++ [kind]))
    return .queued pending.length
  | .direct | .closed => return .value (← onClient (Client.ask command kind.read))

/-- Runs a command at once. It is never queued: what keeps it from overtaking
the commands of an open pipeline is the permit alone. -/
def direct (operation : Operation) (command : Command) (kind : ReplyKind) :
    Step (Connection C × E) kind.Result := do
  permit operation
  onClient (Client.ask command kind.read)

/-- Runs a request, by its route, if its arguments pass. -/
def run (request : Request) : Step (Connection C × E) (Reply request.kind.Result) := do
  ofExcept request.check
  match request.route with
  | .dispatched => dispatch request.operation request.command request.kind
  | .direct => return .value (← direct request.operation request.command request.kind)

/-- The value of a reply, which may itself be an error. -/
def readEntry (reply : Except Error Frame) (kind : ReplyKind) : Except Error Value := do
  kind.readValue (← reply)

/-- Closes the pipeline and gives the value of every request that waited, in
order. Without an open pipeline there are none. -/
def closePipeline : Step (Connection C × E) (List (Except Error Value)) := do
  match ← getPhase with
  | .direct | .closed => return []
  | .pipelined pending =>
    enter .direct
    if pending.isEmpty then return []
    let replies ← onClient Client.sync
    if replies.length ≠ pending.length then
      throw (.protocol (.replyCount replies.length pending.length))
    return replies.zipWith readEntry pending

/-- Gives the client back and forgets what waits. A closed connection is left
as it is. -/
def close : Step (Connection C × E) Unit := do
  match ← getPhase with
  | .closed => return
  | .direct | .pipelined _ =>
    enter .closed
    onClient Client.quit

/-- Whether an error is the server ending the stream. -/
def endsStream : Error → Bool
  | .io ⟨.unexpectedEnd, _⟩ => true
  | _ => false

/-- An outcome in which the server ending the stream counts as success. -/
def closedByServer (outcome : Except Error (Reply Unit)) : Except Error (Reply Unit) :=
  match outcome with
  | .ok reply => .ok reply
  | .error error => if endsStream error then .ok (.value ()) else .error error

/-- Stops the server. A save option makes it a script, which runs at once. The
server ending the stream counts as success. -/
def shutdown (option : Option SaveOption) : Step (Connection C × E) (Reply Unit) := do
  match option with
  | none =>
    let outcome ← Step.attempt (dispatch .shutdown (.named "SHUTDOWN") .status)
    ofExcept (closedByServer outcome)
  | some option =>
    permit .shutdownScripted
    let script := Command.eval (Command.shutdownScript option) [] []
    let outcome ← Step.attempt (onClient (Client.ask script Frame.readStatus))
    ofExcept (closedByServer (outcome.map .value))

omit [Client C E] in
/-- Opens a connection with the configuration that settings spell out. -/
def ofSettings [Url.Reader] (settings : Settings) (openClient : Config → E → Except Error C × E)
    (env : E) : Except Error (Connection C) × E :=
  match settings.resolve with
  | .error error => (.error error, env)
  | .ok config =>
    let (client, env) := openClient config env
    (client.map fun client => { client, sentinel := config.sentinel }, env)

end Connection

end RedisClient
