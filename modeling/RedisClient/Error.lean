import RedisClient.Frame.Decoder
import RedisClient.Frame.Inspect
import RedisClient.Node
import RedisClient.Operation

/-!
# Errors

An error says what went wrong as a cause; `Error.message` gives the wording and
`Error.kind` the category. Transport, protocol and server errors come from the
exchange with a server. The other categories are raised before anything is
sent: an argument fails its check, an operation does not fit the mode, a
resource was never configured, or something closed is used.
-/

namespace RedisClient

/-- The classes of transport failures. -/
inductive IoKind where
  | notFound
  | permissionDenied
  | connectionRefused
  | connectionReset
  | hostUnreachable
  | networkUnreachable
  | connectionAborted
  | notConnected
  | addressInUse
  | addressNotAvailable
  | networkDown
  | brokenPipe
  | alreadyExists
  | wouldBlock
  | invalidInput
  | invalidData
  | timedOut
  | writeZero
  | interrupted
  | unsupported
  | unexpectedEnd
  | outOfMemory
  | other
  deriving DecidableEq, Repr

/-- The wording of a class of failures. -/
def IoKind.description : IoKind → String
  | notFound => "entity not found"
  | permissionDenied => "permission denied"
  | connectionRefused => "connection refused"
  | connectionReset => "connection reset"
  | hostUnreachable => "host unreachable"
  | networkUnreachable => "network unreachable"
  | connectionAborted => "connection aborted"
  | notConnected => "not connected"
  | addressInUse => "address in use"
  | addressNotAvailable => "address not available"
  | networkDown => "network down"
  | brokenPipe => "broken pipe"
  | alreadyExists => "entity already exists"
  | wouldBlock => "operation would block"
  | invalidInput => "invalid input parameter"
  | invalidData => "invalid data"
  | timedOut => "timed out"
  | writeZero => "write zero"
  | interrupted => "operation interrupted"
  | unsupported => "unsupported"
  | unexpectedEnd => "unexpected end of file"
  | outOfMemory => "out of memory"
  | other => "other error"

/-- A transport failure. -/
structure IoFailure where
  /-- Its class. -/
  kind : IoKind
  /-- A text of its own; a failure that the operating system reports has none. -/
  detail : Option String := none
  deriving DecidableEq, Repr

/-- The wording of a transport failure. -/
def IoFailure.message (failure : IoFailure) : String :=
  failure.detail.getD failure.kind.description

/-- Why an argument or a setting is refused. -/
inductive ArgumentFault where
  /-- A command that takes one or more items was given none. -/
  | missing (command item : String)
  /-- A number is no 32-bit integer. -/
  | outOfRange (name : String) (value : Int64)
  /-- A text has nothing but white space. -/
  | blank (name : String)
  /-- A master to be watched has no quorum. -/
  | quorumMissing
  /-- No address was set. -/
  | addressMissing
  /-- The address is no URL. -/
  | addressMalformed
  /-- The address has the scheme of another protocol. -/
  | schemeUnknown
  /-- The address names no host. -/
  | hostMissing
  /-- The address names no database number after its host. -/
  | databaseInvalid (text : String)
  /-- The user or the password in the address is not UTF-8. -/
  | credentialsNotText
  /-- A sentinel group has no sentinels. -/
  | sentinelsMissing
  /-- A node's port is no port. -/
  | portInvalid (address : String)
  /-- A node has no host. -/
  | nodeHostMissing (address : String)
  /-- A secure stream was asked for and cannot be had. -/
  | secureUnavailable
  deriving DecidableEq, Repr

/-- The wording of a refusal. -/
def ArgumentFault.message : ArgumentFault → String
  | missing command item => s!"{command} needs at least one {item}"
  | outOfRange name value =>
    s!"{name} must be within [-2147483648, 2147483647], got {Decimal.intText value.toInt}"
  | blank name => s!"{name} must not be empty"
  | quorumMissing => "quorum is required to monitor a master"
  | addressMissing => "address is required"
  | addressMalformed => "invalid address format"
  | schemeUnknown => "invalid scheme, expected redis:// or rediss://"
  | hostMissing => "missing host in address"
  | databaseInvalid text => s!"invalid database number: {text}"
  | credentialsNotText => "credentials in address are not valid UTF-8"
  | sentinelsMissing => "sentinel needs at least one node"
  | portInvalid address => s!"invalid port in {address}"
  | nodeHostMissing address => s!"missing host in {address}"
  | secureUnavailable => "rediss:// requires the `tls` feature"

/-- What a reply was expected to be. -/
inductive Shape where
  | bulkString
  | integer
  | array
  deriving DecidableEq, Repr

/-- The wording of an expectation. -/
def Shape.name : Shape → String
  | bulkString => "bulk string"
  | integer => "integer"
  | array => "array"

/-- Why bytes from a server make no sense. -/
inductive ProtocolFault where
  /-- They are no frame. -/
  | malformed (fault : DecodeFault)
  /-- They are a frame of another shape. -/
  | unexpected (expected : Shape) (got : Frame)
  /-- A null stands where a byte string is needed. -/
  | nullElement
  /-- A byte string is no number. -/
  | invalidNumber (raw : Bytes)
  /-- A list of pairs has an odd number of elements. -/
  | oddLength
  /-- A clock reading has not two elements. -/
  | timeLength
  /-- A clock reading in milliseconds is no 64-bit integer. -/
  | timeRange
  /-- A page of a scan has not two elements. -/
  | pageLength
  /-- A page of a scan has an empty token. -/
  | emptyToken
  /-- A score that was raised came back as null. -/
  | nullScore
  /-- A pipeline has another number of replies than of commands. -/
  | replyCount (replies commands : Nat)
  /-- A server's description lacks its address. -/
  | addressMissing
  /-- A server's description lacks a port that is one. -/
  | portMissing
  /-- What a client says by itself. -/
  | reported (text : String)
  deriving Repr

/-- The wording of a fault. -/
def ProtocolFault.message : ProtocolFault → String
  | malformed fault => fault.message
  | unexpected expected got => s!"expected {expected.name}, got {got.inspect}"
  | nullElement => "unexpected null element"
  | invalidNumber raw => s!"invalid number: {Utf8.decodeLossy raw}"
  | oddLength => "expected an even number of elements"
  | timeLength => "TIME reply must have 2 elements"
  | timeRange => "TIME reply out of range"
  | pageLength => "SCAN response must have 2 elements"
  | emptyToken => "empty scan cursor"
  | nullScore => "ZINCRBY returned null"
  | replyCount replies commands =>
    s!"pipeline returned {Decimal.natText replies} replies for {Decimal.natText commands} commands"
  | addressMissing => "sentinel reply without ip"
  | portMissing => "sentinel reply without a valid port"
  | reported text => text

/-- What is missing from the configuration. -/
inductive ResourceFault where
  /-- No sentinels are configured. -/
  | noSentinels
  /-- None of the sentinels of a master can be reached. -/
  | noneReachable (master : String)
  deriving DecidableEq, Repr

/-- The wording of what is missing. -/
def ResourceFault.message : ResourceFault → String
  | noSentinels => "no sentinels configured"
  | noneReachable master => s!"no reachable sentinel for master {master}"

/-- How something was used that cannot be used so. -/
inductive MisuseFault where
  /-- The connection is closed. -/
  | connectionClosed
  /-- The cursor is closed. -/
  | cursorClosed
  /-- The connection to a sentinel is closed. -/
  | sentinelClosed (node : Node)
  /-- A reply is asked for its value while it waits in a pipeline. -/
  | replyQueued (index : Nat)
  /-- A command is to run while others wait. -/
  | commandsQueued (count : Nat)
  /-- The client has given its stream back. -/
  | released (node : Node)
  /-- The client lost its place in its stream. -/
  | broken (node : Node)
  /-- What a client says by itself. -/
  | reported (text : String)
  deriving DecidableEq, Repr

/-- The wording of a misuse. -/
def MisuseFault.message : MisuseFault → String
  | connectionClosed => "connection is closed"
  | cursorClosed => "cannot access closed cursor"
  | sentinelClosed node => s!"sentinel connection to {node.text} is closed"
  | replyQueued index => s!"reply {Decimal.natText index} is queued; read it from close_pipeline"
  | commandsQueued count =>
    s!"{Decimal.natText count} commands are queued; sync the pipeline first"
  | released node => s!"connection to {node.text} was released"
  | broken node => s!"connection to {node.text} is broken after a failed exchange; reconnect"
  | reported text => text

/-- What can go wrong. -/
inductive Error where
  /-- The transport failed. -/
  | io (failure : IoFailure)
  /-- The server sent something that makes no sense. -/
  | protocol (fault : ProtocolFault)
  /-- The server reported an error. -/
  | server (text : String)
  /-- The server refused the credentials. -/
  | auth
  /-- A deadline passed. -/
  | timeout (millis : Nat)
  /-- An argument or a setting was refused. -/
  | invalidArgument (fault : ArgumentFault)
  /-- The operation cannot wait in a pipeline. -/
  | unsupported (operation : Operation)
  /-- Something is missing from the configuration. -/
  | resourceUsage (fault : ResourceFault)
  /-- Something was used that cannot be used so. -/
  | misuse (fault : MisuseFault)
  deriving Repr

/-- The categories of errors. -/
inductive ErrorKind where
  | illegalArgument
  | unsupportedOperation
  | resourceUsage
  | misuse
  | dataAccess
  deriving DecidableEq, Repr

namespace Error

/-- The error of an error line's text. -/
def ofLine (text : Bytes) : Error := server (Utf8.decodeLossy text)

/-- The category of an error. -/
def kind : Error → ErrorKind
  | invalidArgument _ => .illegalArgument
  | unsupported _ => .unsupportedOperation
  | resourceUsage _ => .resourceUsage
  | misuse _ => .misuse
  | io _ | protocol _ | server _ | auth | timeout _ => .dataAccess

/-- The wording of an error. -/
def message : Error → String
  | io failure => s!"IO error: {failure.message}"
  | protocol fault => s!"protocol error: {fault.message}"
  | server text => s!"server error: {text}"
  | auth => "authentication failed"
  | timeout millis => s!"timed out after {Decimal.natText millis}ms"
  | invalidArgument fault => s!"invalid argument: {fault.message}"
  | unsupported operation => s!"{operation.name} is not supported in pipeline mode"
  | resourceUsage fault => s!"invalid resource usage: {fault.message}"
  | misuse fault => s!"invalid API usage: {fault.message}"

end Error

namespace Frame

/-- A frame as the outcome of a command: an error line is a failure. -/
def toResult : Frame → Except Error Frame
  | error text => .error (.ofLine text)
  | frame => .ok frame

end Frame

end RedisClient
