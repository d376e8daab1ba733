import Courier.Runtime.World
import Courier.Rpc.Sample
import Courier.Number.Signed

/-!
# Outbound envelopes

What a service sends: envelopes published at once (counted out when the bus takes them),
answers to deliveries (which need a reply subject), error answers (marked with the error
status header), and subscriptions (joining the service's queue group, if it has one).
-/

namespace Courier.Runtime

open Json

/-- The integer member of a decoded record, zero when absent. -/
def intField (v : Value) (key : String) : Int := ((v.get? key).bind Value.int?).getD 0

namespace World

/-- The service of an index. -/
def service? (w : World) (svc : Nat) : Option Service := (w.runner? svc).map (·.service)

/-- An envelope stamped by a service now. -/
def envelope (w : World) (svc : Nat) (subject : Subject) (reply : Option Subject)
    (payload : ByteArray) (headers : Headers) : Message :=
  match w.service? svc with
  | some s => s.makeMessage subject reply payload headers w.nanos
  | none => ⟨subject, reply, payload, headers⟩

/-- The payload bytes of a value in a service's codec. -/
def encodeFor (w : World) (svc : Nat) (v : Value) : ByteArray :=
  match w.service? svc with
  | some s => s.encode v
  | none => .empty

/-- Unmarshals an envelope received by a service. -/
def unmarshalFor (w : World) (svc : Nat) (shape : Shape) (m : Message) :
    Except ServiceError Value :=
  match w.service? svc with
  | some s => s.unmarshal shape m
  | none => .error .cancelled

/-- Whether an envelope passes a service's identity check. -/
def verifies (w : World) (svc : Nat) (m : Message) : Bool :=
  match w.service? svc with
  | some s => (s.verify m).isOk
  | none => false

/-- Publishes an envelope at once; the bus's refusal is a transport failure. -/
def publishNow (w : World) (svc : Nat) (m : Message) : Except ServiceError World :=
  match w.publish m with
  | .error e => .error (.transport e.message)
  | .ok w => .ok (w.count svc false m.size)

/-- Answers a delivery with a payload and extra headers. -/
def respondWith (w : World) (svc : Nat) (delivery : Message) (payload : ByteArray)
    (headers : Headers) : Except ServiceError World :=
  match delivery.reply with
  | none => .error .noReplySubject
  | some r => w.publishNow svc (w.envelope svc r none payload headers)

/-- Answers a delivery with a value. -/
def respond (w : World) (svc : Nat) (delivery : Message) (v : Value) : Except ServiceError World :=
  w.respondWith svc delivery (w.encodeFor svc v) {}

/-- Answers a delivery with an error envelope. -/
def respondError (w : World) (svc : Nat) (delivery : Message) (text : String) :
    Except ServiceError World :=
  w.respondWith svc delivery (w.encodeFor svc (.object [("error", .string text)]))
    (({} : Headers).insert Headers.rpcStatus Headers.rpcStatusError)

/-- The world after an attempt whose failure is only logged. -/
def attempt (w : World) (r : Except ServiceError World) : World :=
  match r with
  | .ok w => w
  | .error _ => w

/-- Subscribes a duty of a service to a subject, in the service's queue group if it has one. -/
def subscribeTo (w : World) (svc : Nat) (subject : Subject) (duty : Duty) :
    Except ServiceError (World × Nat) :=
  let group := (w.service? svc).bind (·.options.queueName)
  match w.subscribeRoute subject group (.service svc duty) with
  | .error e => .error (.transport e.message)
  | .ok r => .ok r

end World

end Courier.Runtime
