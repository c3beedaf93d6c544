import RedisClient.Command
import RedisClient.Operation
import RedisClient.Reply.Reading

/-!
# Scans

What can be traversed page by page: the keys of the database, the members of a
set, the entries of a hash and the members of a sorted set with their scores. A
scan says which command asks for a page and how the page is read.
-/

namespace RedisClient

/-- What is traversed. -/
inductive Scan where
  /-- The keys of the database. -/
  | keys
  /-- The members of a set. -/
  | set (key : Bytes)
  /-- The fields of a hash with their values. -/
  | hash (key : Bytes)
  /-- The members of a sorted set with their scores. -/
  | sortedSet (key : Bytes)
  deriving DecidableEq, Repr

namespace Scan

/-- The type of the items. -/
abbrev Item : Scan → Type
  | keys | set _ => Bytes
  | hash _ => Bytes × Bytes
  | sortedSet _ => ScoredMember

/-- The operation that starts the traversal. -/
def operation : Scan → Operation
  | keys => .scan
  | set _ => .sScan
  | hash _ => .hScan
  | sortedSet _ => .zScan

/-- The command that asks for the page of a token. -/
def command (token : String) (options : ScanOptions) : Scan → Command
  | keys => .scan token options
  | set key => .keyScan "SSCAN" key token options
  | hash key => .keyScan "HSCAN" key token options
  | sortedSet key => .keyScan "ZSCAN" key token options

/-- Reads a page. -/
def readPage : (scan : Scan) → Frame → Except Error (Page scan.Item)
  | keys | set _ => Frame.readValuePage
  | hash _ => Frame.readEntryPage
  | sortedSet _ => Frame.readScoredPage

end Scan

end RedisClient
