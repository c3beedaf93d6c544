import RedisClient.Frame.Encoder
import RedisClient.Scan.Options

/-!
# Commands

A command is a name and arguments, all byte strings. Numbers are written in
decimal.
-/

namespace RedisClient

/-- A command. -/
structure Command where
  /-- Its name. -/
  name : Bytes
  /-- Its arguments. -/
  args : List Bytes := []
  deriving DecidableEq, Repr, Inhabited

/-- How a server is to save its data before it stops. -/
inductive SaveOption where
  | save
  | noSave
  deriving DecidableEq, Repr

/-- The word for a save option. -/
def SaveOption.word : SaveOption → String
  | save => "SAVE"
  | noSave => "NOSAVE"

namespace Command

/-- The command with a name and no arguments. -/
def named (name : String) : Command := { name := Utf8.encode name }

/-- Adds an argument. -/
def arg (c : Command) (data : Bytes) : Command := { c with args := c.args ++ [data] }

/-- Adds a text. -/
def text (c : Command) (s : String) : Command := c.arg (Utf8.encode s)

/-- Adds an integer. -/
def int (c : Command) (n : Int) : Command := c.text (Decimal.intText n)

/-- Adds a natural number. -/
def nat (c : Command) (n : Nat) : Command := c.int n

/-- Adds arguments. -/
def addAll (c : Command) (data : List Bytes) : Command := { c with args := c.args ++ data }

/-- The name and the arguments. -/
def words (c : Command) : List Bytes := c.name :: c.args

/-- The name as text. -/
def nameText (c : Command) : String := Utf8.decodeLossy c.name

/-- The command as an array of bulk strings. -/
def toFrame (c : Command) : Frame := .ofWords c.words

/-- The wire form of a command. -/
def encode (c : Command) : Bytes := Frame.encodeWords c.words

/-- Runs a script with keys and arguments. -/
def eval (script : Bytes) (keys args : List Bytes) : Command :=
  (((named "EVAL").arg script).nat keys.length).addAll (keys ++ args)

/-- The script that stops a server with a save option. -/
def shutdownScript (option : SaveOption) : Bytes :=
  Utf8.encode ("return redis.call('SHUTDOWN','" ++ option.word ++ "')")

/-- Asks for a page of the keys. -/
def scan (token : String) (options : ScanOptions) : Command :=
  ((named "SCAN").text token).addAll options.words

/-- Asks for a page of the elements of a key. -/
def keyScan (name : String) (key : Bytes) (token : String) (options : ScanOptions) : Command :=
  (((named name).arg key).text token).addAll options.words

/-- The members of a sorted set between two scores, all of them or a part. -/
def rangeByScore (key : Bytes) (min max : String) (limit : Option (Int × Int)) : Command :=
  let command := (((named "ZRANGEBYSCORE").arg key).text min).text max
  match limit with
  | some (offset, count) => ((command.text "LIMIT").int offset).int count
  | none => command

/-- Creates a key from its serialized form. -/
def restore (key : Bytes) (ttl : Int) (serialized : Bytes) : Command :=
  (((named "RESTORE").arg key).int ttl).arg serialized

/-- Closes the connection of another client. -/
def clientKill (address : String) : Command := ((named "CLIENT").text "KILL").text address

/-- Makes the server a replica. -/
def slaveOf (host : String) (port : UInt16) : Command :=
  ((named "SLAVEOF").text host).nat port.toNat

/-- Makes the server a master. -/
def slaveOfNoOne : Command := ((named "SLAVEOF").text "NO").text "ONE"

/-- Asks whether the server is there. -/
def ping : Command := named "PING"

end Command

end RedisClient
