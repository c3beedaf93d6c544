import RedisClient.Bytes
import RedisClient.Dictionary
import RedisClient.Number.Binary64

/-!
# Values

What a command gives back: typed operations convert their own result into a
`Value`, so that the results of different commands fit into one list.
-/

namespace RedisClient

/-- A member of a sorted set, with its score. -/
structure ScoredMember where
  /-- The member. -/
  member : Bytes
  /-- Its score. -/
  score : Binary64
  deriving DecidableEq, Repr, Inhabited

/-- The result of a command. -/
inductive Value where
  /-- No value. -/
  | nil
  /-- A status without content. -/
  | ok
  /-- A truth value. -/
  | bool (b : Bool)
  /-- An integer. -/
  | int (n : Int64)
  /-- A floating-point number. -/
  | float (x : Binary64)
  /-- A byte string. -/
  | bytes (data : Bytes)
  /-- A text. -/
  | text (text : String)
  /-- A member of a sorted set, with its score. -/
  | scored (member : ScoredMember)
  /-- Fields with their values. -/
  | map (fields : Dictionary Bytes Bytes)
  /-- Several values. -/
  | array (items : List Value)
  deriving Repr, Inhabited

end RedisClient
