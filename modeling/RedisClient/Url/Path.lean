import RedisClient.Url.Percent

/-!
# Paths of URLs

A path is cut into segments at slashes. A segment of one dot is dropped and a
segment of two dots takes the one before it along; what is left is
percent-encoded.
-/

namespace RedisClient

namespace UrlPath

/-- Whether a character is encoded in a path. -/
def isEncoded (c : Char) : Bool := c ∈ [' ', '"', '#', '<', '>', '?', '`', '\x7b', '\x7d']

/-- Whether a segment stands for the place where it is. -/
def isDot (segment : List Char) : Bool :=
  segment.map Char.toLower ∈ [['.'], ['%', '2', 'e']]

/-- Whether a segment stands for the place above. -/
def isDoubleDot (segment : List Char) : Bool :=
  segment.map Char.toLower ∈
    [['.', '.'], ['.', '%', '2', 'e'], ['%', '2', 'e', '.'], ['%', '2', 'e', '%', '2', 'e']]

/-- Whether a segment is a drive letter, which two dots do not take along. -/
def isDrive : List Char → Bool
  | letter :: mark :: rest =>
    letter.isAlpha && (mark == ':' || mark == '|') && (rest.isEmpty || rest.head? == some '\\')
  | _ => false

/-- Takes the last segment away, unless it is a drive letter. The latest segment
stands first. -/
def leave : List (List Char) → List (List Char)
  | [] => []
  | last :: before => if isDrive last then last :: before else before

/-- Files the segments of a path. `filed` are those that are followed by a slash,
the latest first; the result has the last segment of all, which no slash
follows, at its front. -/
def fileSegments (filed : List (List Char)) : List (List Char) → List (List Char)
  | [] => filed
  | [last] =>
    if isDoubleDot last then [] :: leave filed
    else if isDot last then [] :: filed
    else last :: filed
  | segment :: rest =>
    if isDoubleDot segment then fileSegments (leave filed) rest
    else if isDot segment then fileSegments filed rest
    else fileSegments (segment :: filed) rest

/-- The normal form of the segments of a path that begins with a slash. -/
def ofSegments (segments : List (List Char)) : List Char :=
  '/' :: List.intercalate ['/']
    (fileSegments [] (segments.map (Percent.encode isEncoded))).reverse

end UrlPath

end RedisClient
