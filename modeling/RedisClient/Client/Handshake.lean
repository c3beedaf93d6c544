import RedisClient.Channel
import RedisClient.Command
import RedisClient.Config

/-!
# Handshakes

A new stream is greeted before it is used: the client logs in, selects its
database and registers its name, each where the configuration asks for it. A
greeting is sent when the one before has been answered, and the first one that
is refused ends the handshake.
-/

namespace RedisClient

/-- A command that opens the conversation with a server. -/
inductive Greeting where
  /-- Logs in, as a user or as the default one. -/
  | login (username : Option String) (password : String)
  /-- Selects a database. -/
  | select (database : UInt8)
  /-- Registers a name. -/
  | register (name : String)
  deriving DecidableEq, Repr

namespace Greeting

/-- What the server is sent. -/
def command : Greeting → Command
  | login none password => (Command.named "AUTH").text password
  | login (some username) password => ((Command.named "AUTH").text username).text password
  | select database => (Command.named "SELECT").nat database.toNat
  | register name => ((Command.named "CLIENT").text "SETNAME").text name

/-- Accepts a reply that is no error. Why credentials are refused is not told. -/
def accept (greeting : Greeting) (reply : Frame) : Except Error Unit :=
  match greeting with
  | login _ _ => if reply.isError then .error .auth else .ok ()
  | select _ | register _ => reply.toResult.map fun _ => ()

end Greeting

/-- The greetings that a configuration asks for, in order. A user without a
password is not logged in. -/
def Config.greetings (config : Config) : List Greeting :=
  (config.password.map (.login config.username)).toList ++
    (config.database.map .select).toList ++
    (config.clientName.map .register).toList

/-- Sends greetings, one after the answer to the other. -/
def Channel.greet {S : Type} [ByteStream S] : List Greeting → Step (Channel S) Unit
  | [] => return
  | greeting :: rest => do
    let reply ← exchange greeting.command.words
    ofExcept (greeting.accept reply)
    greet rest

end RedisClient
