/-!
# Ranges of code points

A class of characters is given by ranges of code points, both ends included.
-/

namespace RedisClient

namespace Ranges

/-- Whether a character lies in one of some ranges. -/
def contain (ranges : List (Nat × Nat)) (c : Char) : Bool :=
  ranges.any fun (first, last) => first ≤ c.toNat && c.toNat ≤ last

end Ranges

end RedisClient
