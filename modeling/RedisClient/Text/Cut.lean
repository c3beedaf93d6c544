/-!
# Cuts

Texts that are cut in two at the last of the marks in them.
-/

namespace RedisClient

/-- A text cut at the last occurrence of a character. -/
def splitLast (mark : Char) (text : List Char) : Option (List Char × List Char) :=
  match text.reverse.dropWhile (· != mark) with
  | [] => none
  | _ :: front => some (front.reverse, (text.reverse.takeWhile (· != mark)).reverse)

end RedisClient
