import RedisClient.Url.Domain.Mapping
import RedisClient.Url.Domain.Normal
import RedisClient.Url.Domain.Mark
import RedisClient.Url.Domain.Joiner
import RedisClient.Url.Domain.Direction
import RedisClient.Url.Domain.Punycode

/-!
# Domain names

A domain name consists of labels with dots between them. Its labels may have
letters of all scripts; behind `xn--` a label is written in Punycode. A name is
read by mapping its characters, bringing it into composed form and decoding
such labels. Every label then has to be fit to be shown: it has no character
that is reserved in URLs, begins with no mark, has joiners only where they
matter and, in a name with letters from right to left, one direction.
-/

namespace RedisClient

namespace Domain

/-- Whether a character is reserved in URLs or a control. -/
def isReserved (c : Char) : Bool :=
  c.toNat ≤ 0x20 || c ∈ ['%', '#', '/', ':', '<', '>', '?', '@', '[', '\\', ']', '^', '|', '\x7f']

/-- Whether a character is in ASCII. -/
def isAscii (c : Char) : Bool := c.toNat ≤ 0x7F

/-- The most digits of a label in Punycode that are decoded. -/
def codeLimit : Nat := 2000

/-- The most characters of a label that is not in ASCII. -/
def labelLimit : Nat := 1000

/-- The text of a label. What `xn--` introduces must decode to a text that
reading a name leaves as it is. -/
def showLabel (label : List Char) : Option (List Char) :=
  match label with
  | 'x' :: 'n' :: '-' :: '-' :: code => do
    if code.isEmpty ∨ code.getLast? = some '-' ∨ codeLimit < code.length then none
    if !label.all isAscii then none
    let text ← Punycode.decode code
    if text.all isKept ∧ normal text = text then some text else none
  | _ => some label

/-- Whether a label can be shown on its own. -/
def isLabel (label : List Char) : Bool :=
  !label.any isReserved && !label.head?.any isMark && joinersFit [] label &&
    (label.all isAscii || label.length ≤ labelLimit)

/-- The labels of a name as they are shown, if it is a name. -/
def readLabels (text : List Char) : Option (List (List Char)) := do
  let mapped ← text.mapM mapChar
  let labels ← (Ip.splitAt '.' (normal mapped.flatten)).mapM showLabel
  if !labels.all isLabel then none
  if labels.any isBidirectional ∧ ¬ labels.all hasDirection then none
  return labels

/-- A name as it is shown. -/
def read (text : List Char) : Option (List Char) :=
  (readLabels text).map (List.intercalate ['.'])

end Domain

end RedisClient
