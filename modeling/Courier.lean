import Courier.Keyed
import Courier.Number.Binary64
import Courier.Number.Shortest
import Courier.Json.Value
import Courier.Text.Quote
import Courier.Text.Blank
import Courier.Text.Hex
import Courier.Shape
import Courier.Json.Reader
import Courier.Json.Decode
import Courier.Json.Print
import Courier.Subject
import Courier.Subject.Map
import Courier.Header
import Courier.Message
import Courier.Cbor.Head
import Courier.Cbor.Decode
import Courier.Cbor.Encode
import Courier.Codec
import Courier.Service.Payloads
import Courier.Service.Config
import Courier.Rpc.Sample
import Courier.Text.Uppercase
import Courier.Text.Cased
import Courier.Text.CaseTable
import Courier.Text.Case
import Courier.Service.Error
import Courier.Rpc.Error
import Courier.Rpc.Descriptor
import Courier.Rpc.Derive
import Courier.Rpc.Remote
import Courier.Crypto.Sha512
import Courier.Crypto.Ed25519
import Courier.Text.Base64
import Courier.Identity
import Courier.Service.Options
import Courier.Service.Basic
import Courier.Toml.Document
import Courier.Toml.Decode
import Courier.Runtime.Token
import Courier.Rpc.Context
import Courier.Script.Json
import Courier.Script.Context
import Courier.Nats.Connect
import Courier.Nats.Headers
import Courier.Number.Signed
import Courier.Masking
import Courier.Bus.Memory
import Courier.Runtime.World
import Courier.Runtime.Outbound
import Courier.Runtime.Describe
import Courier.Runtime.Handlers
import Courier.Runtime.Scheduler
import Courier.Runtime.Services
import Courier.Runtime.Client
import Courier.Runtime.Registrar
import Courier.Script.Outcome
import Courier.Script.Plain
import Courier.Script.Services
import Courier.Script.Calls
import Courier.Proofs.Tokens
import Courier.Proofs.Agreement
import Courier.Proofs.Routing
import Courier.Proofs.Delivery
import Courier.Proofs.QueueGroups
import Courier.Proofs.Encodings
import Courier.Proofs.Signatures
import Courier.Proofs.Tasks
import Courier.Proofs.Receiving
import Courier.Proofs.ClientStreams
import Courier.Proofs.UnaryCalls
import Courier.Proofs.Footprints
import Courier.Proofs.Registration
import Courier.Proofs.PublishQueue
import Courier.Proofs.Collisions
import Courier.Proofs.Refusals
import Courier.Proofs.RouteLedger
import Courier.Proofs.Crossings
import Courier.Proofs.DeliveryCounters
import Courier.Proofs.Covering
import Courier.Proofs.Validation
import Courier.Proofs.ScopedVars
import Courier.Proofs.CaseWords
import Courier.Proofs.ContextTree
import Courier.Proofs.StreamIds
import Courier.Proofs.NatsHeaders
import Courier.Proofs.Allowlist
