/-!
# Operations

Every operation of a connection by name, and whether it may wait in a pipeline.
What needs its reply before the next request (scans), what later commands rely
on (the selected database, the client's name) and what talks about connections
and replication may not.
-/

namespace RedisClient

/-- An operation of a connection. -/
inductive Operation where
  | del
  | exists
  | expire
  | pExpire
  | ttl
  | persist
  | rename
  | type
  | dump
  | restore
  | scan
  | get
  | set
  | setEx
  | pSetEx
  | setNx
  | getRange
  | append
  | strLen
  | incr
  | incrBy
  | decr
  | decrBy
  | sAdd
  | sRem
  | sMembers
  | sIsMember
  | sCard
  | sRandMember
  | sScan
  | zAdd
  | zRem
  | zScore
  | zCard
  | zIncrBy
  | zRange
  | zRangeByScore
  | zScan
  | hSet
  | hGet
  | hDel
  | hExists
  | hLen
  | hKeys
  | hVals
  | hGetAll
  | hIncrBy
  | hScan
  | ping
  | echo
  | dbSize
  | flushDb
  | select
  | info
  | clientSetName
  | clientGetName
  | clientKill
  | bgSave
  | lastSave
  | time
  | shutdown
  | shutdownScripted
  | slaveOf
  | slaveOfNoOne
  | execute
  deriving DecidableEq, Repr

/-- Whether an operation may wait in a pipeline. -/
inductive PipelineSupport where
  /-- It is queued and answered when the pipeline is closed. -/
  | queued
  /-- It is refused while a pipeline is open. -/
  | unsupported
  deriving DecidableEq, Repr

namespace Operation

/-- The name of an operation in messages. -/
def name : Operation → String
  | del => "DEL"
  | .exists => "EXISTS"
  | expire => "EXPIRE"
  | pExpire => "PEXPIRE"
  | ttl => "TTL"
  | persist => "PERSIST"
  | rename => "RENAME"
  | type => "TYPE"
  | dump => "DUMP"
  | restore => "RESTORE"
  | scan => "SCAN"
  | get => "GET"
  | set => "SET"
  | setEx => "SETEX"
  | pSetEx => "PSETEX"
  | setNx => "SETNX"
  | getRange => "GETRANGE"
  | append => "APPEND"
  | strLen => "STRLEN"
  | incr => "INCR"
  | incrBy => "INCRBY"
  | decr => "DECR"
  | decrBy => "DECRBY"
  | sAdd => "SADD"
  | sRem => "SREM"
  | sMembers => "SMEMBERS"
  | sIsMember => "SISMEMBER"
  | sCard => "SCARD"
  | sRandMember => "SRANDMEMBER"
  | sScan => "SSCAN"
  | zAdd => "ZADD"
  | zRem => "ZREM"
  | zScore => "ZSCORE"
  | zCard => "ZCARD"
  | zIncrBy => "ZINCRBY"
  | zRange => "ZRANGE"
  | zRangeByScore => "ZRANGEBYSCORE"
  | zScan => "ZSCAN"
  | hSet => "HSET"
  | hGet => "HGET"
  | hDel => "HDEL"
  | hExists => "HEXISTS"
  | hLen => "HLEN"
  | hKeys => "HKEYS"
  | hVals => "HVALS"
  | hGetAll => "HGETALL"
  | hIncrBy => "HINCRBY"
  | hScan => "HSCAN"
  | ping => "PING"
  | echo => "ECHO"
  | dbSize => "DBSIZE"
  | flushDb => "FLUSHDB"
  | select => "SELECT"
  | info => "INFO"
  | clientSetName => "CLIENT SETNAME"
  | clientGetName => "CLIENT GETNAME"
  | clientKill => "CLIENT KILL"
  | bgSave => "BGSAVE"
  | lastSave => "LASTSAVE"
  | time => "TIME"
  | shutdown => "SHUTDOWN"
  | shutdownScripted => "SHUTDOWN with save option"
  | slaveOf => "SLAVEOF"
  | slaveOfNoOne => "SLAVEOF NO ONE"
  | execute => "custom command"

/-- Whether an operation may wait in a pipeline. -/
def support : Operation → PipelineSupport
  | scan | sScan | hScan | zScan
  | select | clientSetName | clientGetName | clientKill
  | shutdownScripted | slaveOf | slaveOfNoOne => .unsupported
  | del | .exists | expire | pExpire | ttl | persist | rename | type | dump | restore
  | get | set | setEx | pSetEx | setNx | getRange | append | strLen | incr | incrBy | decr | decrBy
  | sAdd | sRem | sMembers | sIsMember | sCard | sRandMember
  | zAdd | zRem | zScore | zCard | zIncrBy | zRange | zRangeByScore
  | hSet | hGet | hDel | hExists | hLen | hKeys | hVals | hGetAll | hIncrBy
  | ping | echo | dbSize | flushDb | info | bgSave | lastSave | time | shutdown | execute => .queued

/-- Every operation. -/
def all : List Operation :=
  [del, .exists, expire, pExpire, ttl, persist, rename, type, dump, restore, scan,
    get, set, setEx, pSetEx, setNx, getRange, append, strLen, incr, incrBy, decr, decrBy,
    sAdd, sRem, sMembers, sIsMember, sCard, sRandMember, sScan,
    zAdd, zRem, zScore, zCard, zIncrBy, zRange, zRangeByScore, zScan,
    hSet, hGet, hDel, hExists, hLen, hKeys, hVals, hGetAll, hIncrBy, hScan,
    ping, echo, dbSize, flushDb, select, info, clientSetName, clientGetName, clientKill,
    bgSave, lastSave, time, shutdown, shutdownScripted, slaveOf, slaveOfNoOne, execute]

/-- No operation is left out. -/
theorem mem_all (operation : Operation) : operation ∈ all := by cases operation <;> decide

/-- Whether an operation may wait in a pipeline. -/
def isPipelinable (operation : Operation) : Bool := operation.support == .queued

end Operation

end RedisClient
