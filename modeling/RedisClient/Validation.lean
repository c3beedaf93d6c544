import RedisClient.Error
import RedisClient.Text.Blank

/-!
# Argument checks

Checks that are made before anything is sent. A failure is the caller's own.
-/

namespace RedisClient

namespace Validation

/-- A number as a 32-bit integer, which is what the server reads. -/
def int32 (name : String) (value : Int64) : Except Error Int32 :=
  if -0x80000000 ≤ value.toInt ∧ value.toInt ≤ 0x7FFFFFFF then .ok (.ofInt value.toInt)
  else .error (.invalidArgument (.outOfRange name value))

/-- A text that has more than white space. -/
def notBlank (name text : String) : Except Error String :=
  if Blank.isBlankText text then .error (.invalidArgument (.blank name)) else .ok text

/-- A list that has items; `command` needs at least one `item`. -/
def notEmpty {α : Type} (command item : String) (items : List α) : Except Error Unit :=
  if items.isEmpty then .error (.invalidArgument (.missing command item)) else .ok ()

end Validation

end RedisClient
