/-!
# Pages

A traversal of a large collection comes in pages. Each names the token that
asks for the page after it; the token `0` says that there is none.
-/

namespace RedisClient

/-- The token that opens a traversal and that the last page answers with. -/
def Page.endToken : String := "0"

/-- One page of a traversal. -/
structure Page (α : Type) where
  /-- The token that asks for the next page. -/
  token : String
  /-- The elements of this page. -/
  items : List α
  deriving DecidableEq, Repr

namespace Page

/-- Whether the traversal ends with this page. -/
def isLast {α : Type} (page : Page α) : Bool := page.token == endToken

end Page

end RedisClient
