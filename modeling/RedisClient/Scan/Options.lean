import RedisClient.Number.Decimal
import RedisClient.Text.Utf8

/-!
# Scan options

Hints that go with every request for a page: a pattern that elements have to
match and the number of elements that the server should look at.
-/

namespace RedisClient

/-- The hints of a traversal. -/
structure ScanOptions where
  /-- A glob pattern. -/
  pattern : Option Bytes := none
  /-- A number of elements. -/
  count : Option UInt64 := none
  deriving DecidableEq, Repr, Inhabited

namespace ScanOptions

/-- The words that stand behind the token of a request. -/
def words (options : ScanOptions) : List Bytes :=
  (options.pattern.elim [] fun pattern => [Utf8.encode "MATCH", pattern]) ++
    options.count.elim [] fun count =>
      [Utf8.encode "COUNT", Utf8.encode (Decimal.natText count.toNat)]

end ScanOptions

end RedisClient
