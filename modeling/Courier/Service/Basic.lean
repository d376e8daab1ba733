import Courier.Service.Options
import Courier.Service.Payloads
import Courier.Message
import Courier.Codec

/-!
# Services

A service is a named party on the bus: its options, its codec and its identity. Its subjects
start with its prefix and name. It stamps the envelopes it sends, and unmarshals the ones it
receives: the identity is verified first, then an envelope marked as an error reply yields
the remote error, and any other envelope is decoded.

A stream subject `prefix.name.fixed….rest` identifies a stream by the tokens after the fixed
suffixes: `streamIdParts` keeps the tokens from the one before the last root token on, and
`streamId` joins all of them but the first.
-/

namespace Courier

open Json

/-- A service: options, codec and identity. -/
structure Service where
  options : ServiceOptions
  codec : Codec
  identity : Identity

namespace Service

/-- A service of valid options. -/
def make (codec : Codec) (options : ServiceOptions) : Except ServiceError Service :=
  options.validate.map fun () => ⟨options, codec, options.identity⟩

/-- The subject of suffixes under the service's prefix and name. -/
def subject (s : Service) (suffixes : List String) : Subject :=
  Subject.build s.options.pre (s.options.name :: suffixes)

/-- The tokens of a stream subject from the one before the last root token on. -/
def streamIdParts (s : Service) (subject : Subject) (suffixes : List String) : List String :=
  subject.tokens.drop ((s.subject suffixes).tokens.length - 2)

/-- The stream id of a stream subject: its parts after the first, joined by dots. -/
def streamId (s : Service) (subject : Subject) (suffixes : List String) : String :=
  match s.streamIdParts subject suffixes with
  | [] => ""
  | _ :: rest => ".".intercalate rest

/-- The payload bytes of a value. -/
def encode (s : Service) (v : Value) : ByteArray := s.codec.encode v

/-- Decodes a payload of a shape. -/
def decode (s : Service) (shape : Shape) (payload : ByteArray) : Except ServiceError Value :=
  (s.codec.decode shape payload).mapError fun e => .decode e.message

/-- Checks the identity and signature of an envelope. -/
def verify (s : Service) (m : Message) : Except ServiceError Unit :=
  s.identity.verify m.headers m.payload

/-- Whether an envelope is marked as an error reply. -/
def isErrorReply (m : Message) : Bool :=
  m.headers.get? Headers.rpcStatus == some Headers.rpcStatusError

/-- Unmarshals an envelope: verified, then an error reply as the remote error, else decoded. -/
def unmarshal (s : Service) (shape : Shape) (m : Message) : Except ServiceError Value :=
  match s.verify m with
  | .error e => .error e
  | .ok () =>
    if isErrorReply m then
      match s.decode Shape.rpcError m.payload with
      | .error e => .error e
      | .ok v => .error (.remote (((v.get? "error").bind Value.str?).getD ""))
    else s.decode shape m.payload

/-- An envelope stamped by the service at `now`. -/
def makeMessage (s : Service) (subject : Subject) (reply : Option Subject) (payload : ByteArray)
    (headers : Headers) (now : Int) : Message :=
  ⟨subject, reply, payload, s.identity.stamp headers payload now⟩

/-- The diagnostic text of a service. -/
def describe (s : Service) : String :=
  "Service \x7b prefix: " ++ Text.quote s.options.pre ++ ", name: " ++ Text.quote s.options.name ++
    ", identity: " ++ (match s.identity.public? with
      | some p => "Some(" ++ Text.quote p ++ ")"
      | none => "None") ++ ", .. \x7d"

end Service

end Courier
