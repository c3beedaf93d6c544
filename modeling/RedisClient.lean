import RedisClient.Bytes
import RedisClient.Text.Utf8
import RedisClient.Text.Blank
import RedisClient.Text.Cut
import RedisClient.Text.Ranges
import RedisClient.Text.Printable
import RedisClient.Text.Inspect
import RedisClient.Number.Decimal
import RedisClient.Number.Binary64
import RedisClient.Frame
import RedisClient.Frame.Encoder
import RedisClient.Frame.Decoder
import RedisClient.Frame.Inspect
import RedisClient.Node
import RedisClient.Operation
import RedisClient.Error
import RedisClient.Dictionary
import RedisClient.Value
import RedisClient.Scan.Page
import RedisClient.Scan.Options
import RedisClient.Reply.Reading
import RedisClient.Reply
import RedisClient.Command
import RedisClient.Validation
import RedisClient.Address
import RedisClient.Url.Percent
import RedisClient.Url.Ip
import RedisClient.Url.Domain.Mapping
import RedisClient.Url.Domain.Normal
import RedisClient.Url.Domain.Mark
import RedisClient.Url.Domain.Joiner
import RedisClient.Url.Domain.Direction
import RedisClient.Url.Domain.Punycode
import RedisClient.Url.Domain
import RedisClient.Url.Host
import RedisClient.Url.Path
import RedisClient.Url
import RedisClient.Url.Standard
import RedisClient.Config
import RedisClient.Step
import RedisClient.Client
import RedisClient.Request
import RedisClient.Client.Journal
import RedisClient.Client.Scripted
import RedisClient.Connection
import RedisClient.Scan
import RedisClient.Scan.Cursor
import RedisClient.Sentinel.Server
import RedisClient.Sentinel
import RedisClient.Stream
import RedisClient.Stream.Scripted
import RedisClient.Channel
import RedisClient.Network
import RedisClient.Client.Handshake
import RedisClient.Client.Wire
import RedisClient.Network.Scripted
import RedisClient.Proofs.Step
import RedisClient.Proofs.Text.Cut
import RedisClient.Proofs.Number.Decimal
import RedisClient.Proofs.Number.Rounding
import RedisClient.Proofs.Number.Literal
import RedisClient.Proofs.Frame.Resumption
import RedisClient.Proofs.Frame.Streaming
import RedisClient.Proofs.Frame.Header
import RedisClient.Proofs.Frame.Encoded
import RedisClient.Proofs.Connection.Transition
import RedisClient.Proofs.Connection.Pipeline
import RedisClient.Proofs.Connection.Reach
import RedisClient.Proofs.Wire.Peer
import RedisClient.Proofs.Wire.Transition
import RedisClient.Proofs.Wire.InStep
import RedisClient.Proofs.Wire.Alignment
import RedisClient.Proofs.Connection.Closing
import RedisClient.Proofs.Frame.Descent
import RedisClient.Proofs.Frame.RoundTrip
import RedisClient.Proofs.Reply.Pairs
import RedisClient.Proofs.Scan.Pages
import RedisClient.Proofs.Scan.Transition
import RedisClient.Proofs.Scan.Traversal
import RedisClient.Proofs.Connection.Count
import RedisClient.Proofs.Connection.Fields
import RedisClient.Proofs.Wire.Fields
import RedisClient.Proofs.Connection.Calls
import RedisClient.Proofs.Connection.Release
import RedisClient.Proofs.Connection.Order
import RedisClient.Proofs.Frame.Commands
import RedisClient.Proofs.Wire.Submission
import RedisClient.Proofs.Frame.Fault
import RedisClient.Proofs.Scan.Failure
import RedisClient.Proofs.Reply.Blame
import RedisClient.Proofs.Connection.Refusal
import RedisClient.Proofs.Reply.ErrorLines
import RedisClient.Proofs.Connection.Stopping
import RedisClient.Proofs.Sentinel.Transition
import RedisClient.Proofs.Sentinel.Selection
import RedisClient.Proofs.Sentinel.Life
import RedisClient.Proofs.Wire.Delivery
import RedisClient.Proofs.Dictionary
import RedisClient.Proofs.Sentinel.Listing
import RedisClient.Proofs.Url.Percent
import RedisClient.Proofs.Url.Parts
import RedisClient.Proofs.Url.Reading
import RedisClient.Proofs.Url.Written
import RedisClient.Proofs.Wire.Transcript
import RedisClient.Proofs.Wire.Handshake
import RedisClient.Proofs.Address
import RedisClient.Proofs.Number.Numeral
import RedisClient.Proofs.Reply.Clock
import RedisClient.Proofs.Reply.Integer
import RedisClient.Proofs.Frame.Saved
import RedisClient.Proofs.Frame.InPlace
