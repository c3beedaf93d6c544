import RedisClient.Command
import RedisClient.Step

/-!
# Clients

A client exchanges commands and replies with one server: it runs a command at
once, or keeps commands back and sends them together. What a connection does,
it does through these operations, so any type that has them can stand below a
connection. Scripts and pages are run as ordinary commands.
-/

namespace RedisClient

/-- The operations of a client, whose surroundings have the type `E`. -/
class Client (C : Type) (E : outParam Type) where
  /-- How many commands are kept back. -/
  queued : C → Nat
  /-- Runs a command. An error reply is a failure. -/
  execute : Command → Step (C × E) Frame
  /-- Keeps a command back. -/
  queue : Command → Step (C × E) Unit
  /-- Sends the commands that are kept back and gives the replies in order. -/
  sync : Step (C × E) (List (Except Error Frame))
  /-- Gives the stream back. -/
  quit : Step (C × E) Unit
  /-- Opens a client for a sentinel with the same credentials and limits. -/
  openSentinel : C → Node → E → Except Error C × E

/-- Runs a command and reads its reply. -/
def Client.ask {C E α : Type} [Client C E] (command : Command)
    (read : Frame → Except Error α) : Step (C × E) α := do
  let frame ← execute command
  ofExcept (read frame)

end RedisClient
