import RedisClient.Client
import RedisClient.Config

/-!
# Journals

A journaled client is a client that enters every call into a journal before it
makes it, and so are the sentinels' clients that it opens. The journal is part
of the surroundings: one journal holds the calls of all of them in the order in
which they were made.
-/

namespace RedisClient

/-- What a client was asked to do. -/
inductive Call where
  /-- To come into being. -/
  | opened (config : Config)
  /-- To run a command. -/
  | execute (command : Command)
  /-- To keep a command back. -/
  | queue (command : Command)
  /-- To send the commands that it keeps back, this many. -/
  | sync (queued : Nat)
  /-- To give its stream back. -/
  | quit
  /-- To open a client for a sentinel. -/
  | openSentinel (node : Node)
  deriving DecidableEq, Repr

/-- A call and who was called: a sentinel's client goes by the sentinel, the
connection's own client by nothing. -/
structure JournalEntry where
  /-- The sentinel, for a sentinel's client. -/
  owner : Option Node
  /-- The call. -/
  call : Call
  deriving DecidableEq, Repr

/-- Surroundings with the calls that were made in them, the earliest first. -/
structure Journal (E : Type) where
  /-- The surroundings. -/
  env : E
  /-- The calls. -/
  entries : List JournalEntry := []

/-- A client that keeps a journal. -/
structure Journaled (C : Type) where
  /-- The sentinel that it belongs to, if it belongs to one. -/
  owner : Option Node := none
  /-- The client. -/
  client : C

namespace Journal

variable {C E α : Type}

/-- Enters a call. -/
def enter (journal : Journal E) (owner : Option Node) (call : Call) : Journal E :=
  { journal with entries := journal.entries ++ [⟨owner, call⟩] }

/-- Enters a call and makes it. -/
def noting (call : C → Call) (step : Step (C × E) α) : Step (Journaled C × Journal E) α :=
  fun (c, journal) =>
    let journal := journal.enter c.owner (call c.client)
    match step (c.client, journal.env) with
    | .ok a (client, env) => .ok a ({ c with client }, { journal with env })
    | .error e (client, env) => .error e ({ c with client }, { journal with env })

/-- Enters that a client is opened and opens it. -/
def opening (openClient : Config → E → Except Error C × E) (config : Config)
    (journal : Journal E) : Except Error (Journaled C) × Journal E :=
  let journal := journal.enter none (.opened config)
  let (client, env) := openClient config journal.env
  (client.map fun client => { client }, { journal with env })

instance [Client C E] : Client (Journaled C) (Journal E) where
  queued c := Client.queued c.client
  execute command := noting (fun _ => .execute command) (Client.execute command)
  queue command := noting (fun _ => .queue command) (Client.queue command)
  sync := noting (fun client => .sync (Client.queued client)) Client.sync
  quit := noting (fun _ => .quit) Client.quit
  openSentinel c node journal :=
    let journal := journal.enter c.owner (.openSentinel node)
    let (client, env) := Client.openSentinel c.client node journal.env
    (client.map fun client => { owner := some node, client }, { journal with env })

end Journal

end RedisClient
