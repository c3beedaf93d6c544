import RedisClient.Command
import RedisClient.Reply
import RedisClient.Validation

/-!
# Requests

A request is a typed operation with its arguments. `Request.check` refuses
arguments that make no sense, `Request.operation` names the operation,
`Request.command` is what the server is sent, `Request.kind` is what its reply
means and `Request.route` is the way it takes to the client. Numbers that the
server reads as 32-bit integers are checked for it.
-/

namespace RedisClient

/-- A typed operation with its arguments. -/
inductive Request where
  /-- Removes keys and counts them. -/
  | del (keys : List Bytes)
  /-- Whether a key exists. -/
  | exists (key : Bytes)
  /-- Lets a key expire after some seconds. -/
  | expire (key : Bytes) (seconds : Int64)
  /-- Lets a key expire after some milliseconds. -/
  | pExpire (key : Bytes) (millis : Int64)
  /-- The seconds that a key still has. -/
  | ttl (key : Bytes)
  /-- Lets a key no longer expire. -/
  | persist (key : Bytes)
  /-- Gives a key a new name. -/
  | rename (key newKey : Bytes)
  /-- The type of the value of a key. -/
  | keyType (key : Bytes)
  /-- The serialized form of the value of a key. -/
  | dump (key : Bytes)
  /-- Creates a key from a serialized form. -/
  | restore (key : Bytes) (millis : Int64) (serialized : Bytes)
  /-- The string of a key. -/
  | get (key : Bytes)
  /-- Sets the string of a key. -/
  | set (key value : Bytes)
  /-- Sets the string of a key that is to expire after some seconds. -/
  | setEx (key : Bytes) (seconds : Int64) (value : Bytes)
  /-- Sets the string of a key that is to expire after some milliseconds. -/
  | pSetEx (key : Bytes) (millis : Int64) (value : Bytes)
  /-- Sets the string of a key that does not exist. -/
  | setNx (key value : Bytes)
  /-- A part of a string, both ends included. -/
  | getRange (key : Bytes) (start stop : Int64)
  /-- Adds to the end of a string. -/
  | append (key value : Bytes)
  /-- The length of a string. -/
  | strLen (key : Bytes)
  /-- Adds one to a number. -/
  | incr (key : Bytes)
  /-- Adds to a number. -/
  | incrBy (key : Bytes) (amount : Int64)
  /-- Takes one from a number. -/
  | decr (key : Bytes)
  /-- Takes from a number. -/
  | decrBy (key : Bytes) (amount : Int64)
  /-- Adds members to a set and counts the new ones. -/
  | sAdd (key : Bytes) (members : List Bytes)
  /-- Removes members from a set and counts them. -/
  | sRem (key : Bytes) (members : List Bytes)
  /-- The members of a set. -/
  | sMembers (key : Bytes)
  /-- Whether a set has a member. -/
  | sIsMember (key member : Bytes)
  /-- How many members a set has. -/
  | sCard (key : Bytes)
  /-- A member of a set, chosen at random. -/
  | sRandMember (key : Bytes)
  /-- Members of a set, chosen at random; a negative count allows repeats. -/
  | sRandMembers (key : Bytes) (count : Int64)
  /-- Adds a member with its score to a sorted set. -/
  | zAdd (key : Bytes) (score : Binary64) (member : Bytes)
  /-- Removes members from a sorted set and counts them. -/
  | zRem (key : Bytes) (members : List Bytes)
  /-- The score of a member. -/
  | zScore (key member : Bytes)
  /-- How many members a sorted set has. -/
  | zCard (key : Bytes)
  /-- Adds to the score of a member. -/
  | zIncrBy (key : Bytes) (amount : Binary64) (member : Bytes)
  /-- The members between two ranks. -/
  | zRange (key : Bytes) (start stop : Int64)
  /-- The members between two ranks, with their scores. -/
  | zRangeWithScores (key : Bytes) (start stop : Int64)
  /-- The members between two scores, all or from an offset on up to a count. -/
  | zRangeByScore (key : Bytes) (min max : Binary64) (limit : Option (Int64 × Int64))
  /-- Sets a field of a hash. -/
  | hSet (key field value : Bytes)
  /-- The value of a field. -/
  | hGet (key field : Bytes)
  /-- Removes fields from a hash and counts them. -/
  | hDel (key : Bytes) (fields : List Bytes)
  /-- Whether a hash has a field. -/
  | hExists (key field : Bytes)
  /-- How many fields a hash has. -/
  | hLen (key : Bytes)
  /-- The fields of a hash. -/
  | hKeys (key : Bytes)
  /-- The values of a hash. -/
  | hVals (key : Bytes)
  /-- The fields of a hash with their values. -/
  | hGetAll (key : Bytes)
  /-- Adds to the number in a field. -/
  | hIncrBy (key field : Bytes) (amount : Int64)
  /-- Asks whether the server is there. -/
  | ping
  /-- Asks the server to repeat a message. -/
  | echo (message : Bytes)
  /-- How many keys the database has. -/
  | dbSize
  /-- Removes all keys of the database. -/
  | flushDb
  /-- What the server says about itself, in all sections or in one. -/
  | info (section? : Option String)
  /-- Starts to save in the background. -/
  | bgSave
  /-- The time of the last save, in seconds. -/
  | lastSave
  /-- The server's clock, in milliseconds. -/
  | time
  /-- Selects a database. -/
  | select (database : UInt8)
  /-- Gives the connection a name. -/
  | setClientName (name : String)
  /-- The name of the connection. -/
  | clientName
  /-- Closes another client's connection. -/
  | killClient (host : String) (port : UInt16)
  /-- Makes the server a replica of another. -/
  | slaveOf (host : String) (port : UInt16)
  /-- Makes the server a master. -/
  | slaveOfNoOne
  /-- A command that has no type of its own. -/
  | custom (name : String) (args : List Bytes)
  deriving Repr

namespace Request

open Validation in
/-- Refuses arguments that make no sense. -/
def check : Request → Except Error Unit
  | del keys => notEmpty "DEL" "key" keys
  | sAdd _ members => notEmpty "SADD" "member" members
  | sRem _ members => notEmpty "SREM" "member" members
  | zRem _ members => notEmpty "ZREM" "member" members
  | hDel _ fields => notEmpty "HDEL" "field" fields
  | restore _ millis _ => do let _ ← int32 "ttl" millis
  | setEx _ seconds _ => do let _ ← int32 "seconds" seconds
  | sRandMembers _ count => do let _ ← int32 "count" count
  | getRange _ start stop => do
    let _ ← int32 "start" start
    let _ ← int32 "end" stop
  | zRangeByScore _ _ _ (some (offset, count)) => do
    let _ ← int32 "offset" offset
    let _ ← int32 "count" count
  | setClientName name => do let _ ← notBlank "client name" name
  | killClient host _ => do let _ ← notBlank "host" host
  | slaveOf host _ => do let _ ← notBlank "host" host
  | custom name _ => do let _ ← notBlank "command name" name
  | _ => .ok ()

/-- The operation of a request. -/
def operation : Request → Operation
  | del _ => .del
  | .exists _ => .exists
  | expire _ _ => .expire
  | pExpire _ _ => .pExpire
  | ttl _ => .ttl
  | persist _ => .persist
  | rename _ _ => .rename
  | keyType _ => .type
  | dump _ => .dump
  | restore _ _ _ => .restore
  | get _ => .get
  | set _ _ => .set
  | setEx _ _ _ => .setEx
  | pSetEx _ _ _ => .pSetEx
  | setNx _ _ => .setNx
  | getRange _ _ _ => .getRange
  | append _ _ => .append
  | strLen _ => .strLen
  | incr _ => .incr
  | incrBy _ _ => .incrBy
  | decr _ => .decr
  | decrBy _ _ => .decrBy
  | sAdd _ _ => .sAdd
  | sRem _ _ => .sRem
  | sMembers _ => .sMembers
  | sIsMember _ _ => .sIsMember
  | sCard _ => .sCard
  | sRandMember _ | sRandMembers _ _ => .sRandMember
  | zAdd _ _ _ => .zAdd
  | zRem _ _ => .zRem
  | zScore _ _ => .zScore
  | zCard _ => .zCard
  | zIncrBy _ _ _ => .zIncrBy
  | zRange _ _ _ | zRangeWithScores _ _ _ => .zRange
  | zRangeByScore _ _ _ _ => .zRangeByScore
  | hSet _ _ _ => .hSet
  | hGet _ _ => .hGet
  | hDel _ _ => .hDel
  | hExists _ _ => .hExists
  | hLen _ => .hLen
  | hKeys _ => .hKeys
  | hVals _ => .hVals
  | hGetAll _ => .hGetAll
  | hIncrBy _ _ _ => .hIncrBy
  | ping => .ping
  | echo _ => .echo
  | dbSize => .dbSize
  | flushDb => .flushDb
  | info _ => .info
  | bgSave => .bgSave
  | lastSave => .lastSave
  | time => .time
  | select _ => .select
  | setClientName _ => .clientSetName
  | clientName => .clientGetName
  | killClient _ _ => .clientKill
  | slaveOf _ _ => .slaveOf
  | slaveOfNoOne => .slaveOfNoOne
  | custom _ _ => .execute

/-- How a request goes to the client. -/
inductive Route where
  /-- At once, or into the queue while a pipeline is open. -/
  | dispatched
  /-- At once, whatever the mode. -/
  | direct
  deriving DecidableEq, Repr

/-- How a request goes to the client. -/
def route : Request → Route
  | select _ | setClientName _ | clientName | killClient _ _ | slaveOf _ _ | slaveOfNoOne => .direct
  | _ => .dispatched

/-- A command with a key in front of its arguments. -/
def onKey (name : String) (key : Bytes) (args : List Bytes) : Command :=
  ((Command.named name).arg key).addAll args

/-- What the server is sent. -/
def command : Request → Command
  | del keys => (Command.named "DEL").addAll keys
  | .exists key => onKey "EXISTS" key []
  | expire key seconds => (onKey "EXPIRE" key []).int seconds.toInt
  | pExpire key millis => (onKey "PEXPIRE" key []).int millis.toInt
  | ttl key => onKey "TTL" key []
  | persist key => onKey "PERSIST" key []
  | rename key newKey => onKey "RENAME" key [newKey]
  | keyType key => onKey "TYPE" key []
  | dump key => onKey "DUMP" key []
  | restore key millis serialized => .restore key millis.toInt serialized
  | get key => onKey "GET" key []
  | set key value => onKey "SET" key [value]
  | setEx key seconds value => ((onKey "SETEX" key []).int seconds.toInt).arg value
  | pSetEx key millis value => ((onKey "PSETEX" key []).int millis.toInt).arg value
  | setNx key value => onKey "SETNX" key [value]
  | getRange key start stop => ((onKey "GETRANGE" key []).int start.toInt).int stop.toInt
  | append key value => onKey "APPEND" key [value]
  | strLen key => onKey "STRLEN" key []
  | incr key => onKey "INCR" key []
  | incrBy key amount => (onKey "INCRBY" key []).int amount.toInt
  | decr key => onKey "DECR" key []
  | decrBy key amount => (onKey "DECRBY" key []).int amount.toInt
  | sAdd key members => onKey "SADD" key members
  | sRem key members => onKey "SREM" key members
  | sMembers key => onKey "SMEMBERS" key []
  | sIsMember key member => onKey "SISMEMBER" key [member]
  | sCard key => onKey "SCARD" key []
  | sRandMember key => onKey "SRANDMEMBER" key []
  | sRandMembers key count => (onKey "SRANDMEMBER" key []).int count.toInt
  | zAdd key score member => ((onKey "ZADD" key []).text score.text).arg member
  | zRem key members => onKey "ZREM" key members
  | zScore key member => onKey "ZSCORE" key [member]
  | zCard key => onKey "ZCARD" key []
  | zIncrBy key amount member => ((onKey "ZINCRBY" key []).text amount.text).arg member
  | zRange key start stop => ((onKey "ZRANGE" key []).int start.toInt).int stop.toInt
  | zRangeWithScores key start stop =>
    (((onKey "ZRANGE" key []).int start.toInt).int stop.toInt).text "WITHSCORES"
  | zRangeByScore key min max limit =>
    .rangeByScore key min.text max.text
      (limit.map fun (offset, count) => (offset.toInt, count.toInt))
  | hSet key field value => onKey "HSET" key [field, value]
  | hGet key field => onKey "HGET" key [field]
  | hDel key fields => onKey "HDEL" key fields
  | hExists key field => onKey "HEXISTS" key [field]
  | hLen key => onKey "HLEN" key []
  | hKeys key => onKey "HKEYS" key []
  | hVals key => onKey "HVALS" key []
  | hGetAll key => onKey "HGETALL" key []
  | hIncrBy key field amount => (onKey "HINCRBY" key [field]).int amount.toInt
  | ping => .ping
  | echo message => (Command.named "ECHO").arg message
  | dbSize => .named "DBSIZE"
  | flushDb => .named "FLUSHDB"
  | info none => .named "INFO"
  | info (some name) => (Command.named "INFO").text name
  | bgSave => .named "BGSAVE"
  | lastSave => .named "LASTSAVE"
  | time => .named "TIME"
  | select database => (Command.named "SELECT").nat database.toNat
  | setClientName name => ((Command.named "CLIENT").text "SETNAME").text name
  | clientName => (Command.named "CLIENT").text "GETNAME"
  | killClient host port => .clientKill (Node.text ⟨host, port⟩)
  | slaveOf host port => .slaveOf host port
  | slaveOfNoOne => .slaveOfNoOne
  | custom name args => (Command.named name).addAll args

/-- What the reply means. -/
def kind : Request → ReplyKind
  | del _ | ttl _ | append _ _ | strLen _ | incr _ | incrBy _ _ | decr _ | decrBy _ _
  | sAdd _ _ | sRem _ _ | sCard _ | zRem _ _ | zCard _ | hDel _ _ | hLen _ | hIncrBy _ _ _
  | dbSize | lastSave => .integer
  | .exists _ | expire _ _ | pExpire _ _ | persist _ | setNx _ _ | sIsMember _ _
  | zAdd _ _ _ | hSet _ _ _ | hExists _ _ => .flag
  | rename _ _ | restore _ _ _ | set _ _ | setEx _ _ _ | pSetEx _ _ _ | flushDb | bgSave
  | select _ | setClientName _ | killClient _ _ | slaveOf _ _ | slaveOfNoOne => .status
  | keyType _ | ping | info _ => .text
  | dump _ | get _ | sRandMember _ | hGet _ _ => .optionalBytes
  | getRange _ _ _ => .bytesOrEmpty
  | sMembers _ | sRandMembers _ _ | zRange _ _ _ | zRangeByScore _ _ _ _
  | hKeys _ | hVals _ => .list
  | zScore _ _ => .optionalScore
  | zIncrBy _ _ _ => .score
  | zRangeWithScores _ _ _ => .scored
  | hGetAll _ => .map
  | echo _ => .bytes
  | time => .millis
  | clientName => .optionalText
  | custom _ _ => .value

end Request

end RedisClient
