import Courier.Script.Json
import Courier.Runtime.Scheduler

/-!
# Answers of bus operations

How the steps of bus scripts answer: the failures of the bus, of services and of remote calls
with their kinds, a timeout, and a plain success. Messages are shown with generated inbox
names hidden, and, when the script asks for it, with sending times hidden too.
-/

namespace Courier.Script

open Json Courier.Runtime

/-- A bus failure as an answer; a refused subject also names the subject error's kind. -/
def busError (e : Bus.BusError) : Value :=
  match e with
  | .invalidSubject se => obj [("error", .string "InvalidSubject"), ("message", .string e.message),
      ("subject_error", .string (subjectErrorKind se))]
  | .wildcardPublish _ => failure "WildcardPublish" e.message
  | .noResponders _ => failure "NoResponders" e.message

/-- The plain success answer. -/
def okTrue : Value := obj [("ok", .bool true)]

/-- A message as a value with its members in key order; generated inboxes are hidden, and so
are sending times when `hideTimes` is set. -/
def shownMessage (hideTimes : Bool) (m : Message) : Value :=
  obj [("headers", .array (m.headers.entries.map fun (k, vs) =>
      .array [.string k, strList (vs.map (shownHeader hideTimes k))])),
    ("payload", bytesValue m.payload),
    ("reply", match m.reply with
      | some r => .string (shownSubject true r.text)
      | none => .null),
    ("subject", .string (shownSubject true m.subject.text))]

/-- The answer of an operation's outcome; messages and values are shown by the given
functions. -/
def outcomeValue (o : Outcome) (onMessage : Message → Value) (onValue : Value → Value) :
    Value :=
  match o with
  | .done => okTrue
  | .message m => onMessage m
  | .value v => onValue v
  | .busFailure e => busError e
  | .serviceFailure e => serviceError e
  | .callFailure e => rpcError e
  | .timeout => timeoutValue

/-- The counts of a bus as an answer. -/
def statsMembers (b : Bus.Table Handler) : List (String × Value) :=
  let s := b.stats
  [("published", .nat s.published), ("subscribed", .nat s.subscribed),
    ("unsubscribed", .nat s.unsubscribed), ("requests", .nat s.requests),
    ("interactions", .nat s.interactions), ("active", .nat b.active)]

/-- The payload of a step: its text, or else its hexadecimal bytes. -/
def payloadOf (o : Value) : ByteArray :=
  match strOpt o "payload" with
  | some t => t.toUTF8
  | none =>
    match strOpt o "payload_hex" with
    | some h => (Text.hexDecode h).toOption.getD .empty
    | none => .empty

/-- The headers of a step, appended pair by pair. -/
def headersOf (o : Value) : Headers := Headers.ofPairs (pairs o "headers")

end Courier.Script
