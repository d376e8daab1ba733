import Courier.Json.Value
import Courier.Text.Hex
import Courier.Codec
import Courier.Service.Payloads
import Courier.Service.Config
import Courier.Service.Basic
import Courier.Rpc.Sample
import Courier.Rpc.Remote
import Courier.Masking

/-!
# Scripts as JSON

Scripts drive the library with JSON values, and their answers are JSON values. This module
reads the common members of a script (texts, numbers, payloads, headers, options, descriptors)
and writes the common answers (messages, headers, errors). Answers hide what differs from run
to run: generated inbox names and sending times.
-/

namespace Courier.Script

open Json

/-- The member of an object, `null` when absent. -/
def field (v : Value) (k : String) : Value := (v.get? k).getD .null

/-- A text member, empty when absent. -/
def str (v : Value) (k : String) : String := ((v.get? k).bind Value.str?).getD ""

/-- A text member, if present. -/
def strOpt (v : Value) (k : String) : Option String := (v.get? k).bind Value.str?

/-- A list member, empty when absent. -/
def list (v : Value) (k : String) : List Value := ((v.get? k).bind Value.items?).getD []

/-- The texts of a list member. -/
def strs (v : Value) (k : String) : List String := (list v k).filterMap Value.str?

/-- A natural member, `d` when absent. -/
def nat (v : Value) (k : String) (d : Nat) : Nat :=
  match (v.get? k).bind Value.int? with
  | some n => n.toNat
  | none => d

/-- A boolean member, false when absent. -/
def flag (v : Value) (k : String) : Bool := ((v.get? k).bind Value.bool?).getD false

/-- An object of members. -/
def obj (ms : List (String × Value)) : Value := .object ms

/-- A successful answer. -/
def ok (v : Value) : Value := obj [("ok", v)]

/-- A failed answer: the kind of error and its text. -/
def failure (kind msg : String) : Value := obj [("error", .string kind), ("message", .string msg)]

/-- The answer of a step that cannot finish before the script's wait runs out. -/
def timeoutValue : Value := failure "Timeout" "no result before the driver's wait ran out"

/-- A list of texts. -/
def strList (xs : List String) : Value := .array (xs.map .string)

/-- The pairs of texts of a list member. -/
def pairs (v : Value) (k : String) : List (String × String) :=
  (list v k).filterMap fun p =>
    match p with
    | .array [.string a, .string b] => some (a, b)
    | _ => none

/-- The bytes a script gives, as hexadecimal or as text. -/
def bytesOf (v : Value) : Except String ByteArray :=
  match strOpt v "payload_hex" with
  | some h =>
    match Text.hexDecode h with
    | .ok b => .ok b
    | .error e => .error e.message
  | none => .ok (str v "payload").toUTF8

/-- Bytes as their hexadecimal and, when they are UTF-8, their text. -/
def bytesValue (b : ByteArray) : Value :=
  match String.fromUTF8? b with
  | some t => obj [("hex", .string (Text.hexEncode b)), ("text", .string t)]
  | none => obj [("hex", .string (Text.hexEncode b))]

/-- Headers as a list of keys and values. -/
def headersValue (h : Headers) : Value :=
  .array (h.entries.map fun (k, vs) => .array [.string k, strList vs])

/-- The kind of a subject error. -/
def subjectErrorKind : SubjectError → String
  | .empty => "Empty"
  | .emptyToken _ => "EmptyToken"
  | .invalidCharacters _ => "InvalidCharacters"
  | .nonTerminalWildcard _ => "NonTerminalWildcard"
  | .duplicate _ => "Duplicate"

/-- A subject error as an answer. -/
def subjectError (e : SubjectError) : Value := failure (subjectErrorKind e) e.message

/-- A message as a value. -/
def messageValue (m : Message) : Value :=
  obj [("subject", .string m.subject.text),
    ("reply", match m.reply with | some r => .string r.text | none => .null),
    ("payload", bytesValue m.payload), ("headers", headersValue m.headers)]

/-- An optional text. -/
def optStr (o : Option String) : Value := match o with | some t => .string t | none => .null

/-- The payload shape a script names. -/
def shapeOf : String → Shape
  | "rpc_error" => Shape.rpcError
  | "telemetry" => Shape.telemetry
  | "telemetry_ping" => Shape.telemetryPing
  | "telemetry_pong" => Shape.telemetryPong
  | "counter_snapshot" => Shape.counterSnapshot
  | "headers" => Shape.headers
  | "subject" => .text
  | "service_config" => Shape.serviceConfig
  | "test_request" => Shape.sumRequest
  | "test_response" => Shape.sumResponse
  | "i64" => .int64
  | "u64" => .nat64 "u64"
  | "u8" => .byte
  | "f64" => .float
  | "bool" => .flag
  | "string" => .text
  | "bytes" => .list .byte
  | "option_i64" => .optional .int64
  | "string_list" => .list .text
  | "int_map" => .table .int64
  | _ => .any

/-- The codec a script names. -/
def codecOf (i : Value) : Codec := if str i "codec" == "cbor" then .cbor else .json

/-- A codec error as an answer. -/
def codecError (e : CodecError) : Value :=
  match e with
  | .json _ => failure "Json" e.message
  | .cbor _ => failure "CborDecode" e.message

/-- The kind of a service error. -/
def serviceErrorKind : ServiceError → String
  | .alreadyStarted => "AlreadyStarted"
  | .cancelled => "Cancelled"
  | .config _ => "Config"
  | .decode _ => "Decode"
  | .encode _ => "Encode"
  | .invalidIdentity => "InvalidIdentity"
  | .invalidOptions _ => "InvalidOptions"
  | .invalidSignature => "InvalidSignature"
  | .invalidSigningKey _ => "InvalidSigningKey"
  | .malformedSignature => "MalformedSignature"
  | .noReplySubject => "NoReplySubject"
  | .publishQueueClosed => "PublishQueueClosed"
  | .remote _ => "Remote"
  | .transport _ => "Transport"
  | .unknownIdentity _ => "UnknownIdentity"

/-- A service error as an answer. -/
def serviceError (e : ServiceError) : Value := failure (serviceErrorKind e) e.message

/-- The kind of a call error. -/
def rpcErrorKind : RpcError → String
  | .alreadyStarted => "AlreadyStarted"
  | .cancelled => "Cancelled"
  | .callingDisabled _ _ => "CallingDisabled"
  | .deadlineExceeded => "DeadlineExceeded"
  | .duplicateService _ => "DuplicateService"
  | .invalidMethod _ => "InvalidMethod"
  | .invalidSubject _ => "InvalidSubject"
  | .notStarted => "NotStarted"
  | .remote _ => "Remote"
  | .sendClosed => "SendClosed"
  | .service _ => "Service"
  | .streamClosed => "StreamClosed"
  | .unknownMethod _ _ => "UnknownMethod"
  | .unknownService _ => "UnknownService"

/-- A call error as an answer; a service error also names its own kind. -/
def rpcError (e : RpcError) : Value :=
  match e with
  | .service se => obj [("error", .string "Service"), ("message", .string e.message),
      ("service_error", .string (serviceErrorKind se))]
  | _ => failure (rpcErrorKind e) e.message

/-- The name of a method kind. -/
def kindName : MethodKind → String
  | .unary => "unary"
  | .serverStreaming => "server_streaming"
  | .bidiStreaming => "bidi_streaming"

/-- A method descriptor of a script. -/
def methodOf (v : Value) : MethodDescriptor :=
  { name := str v "name",
    kind := match str v "kind" with
      | "server_streaming" => .serverStreaming
      | "bidi_streaming" => .bidiStreaming
      | _ => .unary,
    subjectSuffix := strOpt v "subject_suffix", skipInputs := flag v "skip_inputs" }

/-- A service descriptor of a script. -/
def serviceOf (v : Value) : ServiceDescriptor :=
  { fullName := str v "full_name", subjectPrefix := strOpt v "subject_prefix",
    methods := (list v "methods").map methodOf }

/-- Variable values of a script. -/
def varsOf (v : Value) : Option (List (String × String)) :=
  match v with
  | .object ms => some (ms.filterMap fun (k, x) => x.str?.map fun t => (k, t))
  | _ => none

/-- Headers with the sending times hidden. -/
def maskedHeaders (h : Headers) : Value :=
  .array (h.entries.map fun (k, vs) => .array [.string k, strList (vs.map (shownHeader true k))])

/-- A message as a value, with generated inboxes and sending times hidden. -/
def envelopeValue (m : Message) : Value :=
  obj [("subject", .string (shownSubject true m.subject.text)),
    ("reply", match m.reply with | some r => .string (shownSubject true r.text) | none => .null),
    ("payload", bytesValue m.payload), ("headers", maskedHeaders m.headers)]

/-- The signing key a script names: a byte repeated, or a hexadecimal seed. -/
def seedOf (v : Value) : Option SigningKey :=
  match v with
  | .number n => n.toInt?.map fun k => SigningKey.ofByte k.toNat
  | .string h => (Text.hexDecode h).toOption.map SigningKey.mk
  | _ => none

/-- Adds the known identities a script lists to options. -/
def knownInto (spec : Value) (o : ServiceOptions) : ServiceOptions :=
  let o := (list spec "known").foldl (fun o k =>
    match k with
    | .number _ => match seedOf k with
      | some key => o.withKnownKeys [key.verifyingKey]
      | none => o
    | .string t => o.withKnownIdentities [t]
    | .object _ => match seedOf (field k "seed") with
      | some key =>
        let t := key.verifyingKey.identity
        o.withKnownIdentities [if flag k "upper" then t.toUpper else t]
      | none => o
    | _ => o) o
  (list spec "known_map").foldl (fun o e =>
    match e with
    | .array [.string n, sd] => match seedOf sd with
      | some key => { o with knownIdentities := Keyed.insert n key.verifyingKey o.knownIdentities }
      | none => o
    | _ => o) o

/-- Service options of a script, with the prefix and name used when it gives none. -/
def optionsWith (pre name : String) (v : Value) : ServiceOptions :=
  knownInto v
    { pre := (strOpt v "prefix").getD pre, name := (strOpt v "name").getD name,
      queueName := strOpt v "queue_name",
      publishQueueSize := nat v "publish_queue_size" 1000,
      subscribeQueueSize := nat v "subscribe_queue_size" 1000,
      telemetryPeriodMs := nat v "telemetry_period_ms" 3600000,
      verbose := flag v "verbose", signingKey := seedOf (field v "seed") }

/-- Service options of a script, by default the prefix `busrpc` and the name `rnd`. -/
def optionsOf (v : Value) : ServiceOptions := optionsWith "busrpc" "rnd" v

/-- Service options as a value. -/
def optionsValue (o : ServiceOptions) : Value :=
  obj [("prefix", .string o.pre), ("name", .string o.name), ("queue_name", optStr o.queueName),
    ("publish_queue_size", .nat o.publishQueueSize),
    ("subscribe_queue_size", .nat o.subscribeQueueSize),
    ("telemetry_period_ms", .nat o.telemetryPeriodMs), ("verbose", .bool o.verbose),
    ("identity", optStr (o.signingKey.map (·.verifyingKey.identity))),
    ("known_identities", strList (o.knownIdentities.map Prod.fst))]

/-- Headers changed by a list of header edits. -/
def applyAfter (h : Headers) (ops : List Value) : Headers :=
  ops.foldl (fun h op =>
    match op with
    | .array (.string "insert" :: .string k :: .string v :: _) => h.insert k v
    | .array (.string "append" :: .string k :: .string v :: _) => h.append k v
    | .array (.string "remove" :: .string k :: _) => (h.remove k).2
    | _ => h) h

/-- Bytes a script gives under a text key or a hexadecimal key. -/
def payloadOr (i : Value) (textKey hexKey : String) : Option ByteArray :=
  match strOpt i hexKey with
  | some h => (Text.hexDecode h).toOption
  | none => (strOpt i textKey).map String.toUTF8

/-- The registry of a script's services (the sample service by default), with each
registration's answer. -/
def registryOf (i : Value) : DescriptorRegistry × List Value :=
  let specs := match i.get? "services" with
    | some (.array xs) => xs.map serviceOf
    | _ => [ServiceDescriptor.sample]
  specs.foldl (fun (r, acc) d =>
    match r.register d with
    | .ok r => (r, acc ++ [obj [("ok", .bool true)]])
    | .error e => (r, acc ++ [rpcError e])) ({}, [])

end Courier.Script
