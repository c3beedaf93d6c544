import RedisClient.Frame
import RedisClient.Text.Inspect

/-!
# Frames as inspection text

The text of a frame inside an error message: bulk strings are shown as quoted
byte strings, status and error lines as lists of byte values.
-/

namespace RedisClient

namespace Frame

/-- The values of bytes, in brackets. -/
def inspectLine (text : Bytes) : String := Inspect.list (text.map fun b => Inspect.nat b.toNat)

mutual

/-- The inspection text of a frame. -/
def inspect : Frame → String
  | simple text => "SimpleString(" ++ inspectLine text ++ ")"
  | error text => "Error(" ++ inspectLine text ++ ")"
  | integer n => "Integer(" ++ Decimal.intText n.toInt ++ ")"
  | bulk data => "BulkString(Some(" ++ Inspect.bytes data ++ "))"
  | nullBulk => "BulkString(None)"
  | array items => "Array(" ++ Inspect.list (inspectAll items) ++ ")"
  | nullArray => "Null"

/-- The inspection texts of frames. -/
def inspectAll : List Frame → List String
  | [] => []
  | item :: rest => inspect item :: inspectAll rest

end

end Frame

end RedisClient
