import Courier.Bus.Memory
import Courier.Service.Basic
import Courier.Rpc.Context
import Courier.Rpc.Remote

/-!
# The simulated world

A world holds everything that lives on one in-memory bus: the routing table, the clock, the
cancellation tokens, the services with their publish queues and run loops, the client
streams, the registrar of served methods, and the tasks that are ready to run.

Tasks are cooperative. A route's task hands each message of its channel to the route's
handler; a service's run loop drains the publish queue and reports telemetry; the registrar's
watcher drops its subscriptions once its context or its service is cancelled; a released
stream's task drops the stream's reply subscription. A task is woken by putting it at the end
of the ready list, at most once.

The clock counts milliseconds from zero. The wall-clock time a service stamps on its envelopes
is a fixed epoch plus the bus clock, in nanoseconds.
-/

namespace Courier.Runtime

open Json

/-- The delivery counters of a service: messages and bytes in and out, wrapping at 2^64. -/
structure Counters where
  msgIn : Nat := 0
  msgOut : Nat := 0
  bytesIn : Nat := 0
  bytesOut : Nat := 0
  deriving Repr, Inhabited

namespace Counters

/-- The modulus of the counters. -/
def modulus : Nat := Nat.pow 2 64

/-- Counts an inbound message of `bytes` bytes. -/
def recordIn (c : Counters) (bytes : Nat) : Counters :=
  { c with msgIn := (c.msgIn + 1) % modulus, bytesIn := (c.bytesIn + bytes) % modulus }

/-- Counts an outbound message of `bytes` bytes. -/
def recordOut (c : Counters) (bytes : Nat) : Counters :=
  { c with msgOut := (c.msgOut + 1) % modulus, bytesOut := (c.bytesOut + bytes) % modulus }

end Counters

/-- How a server-streaming method of the sample handlers answers. -/
inductive StreamStyle where
  /-- One response carrying the subject the call arrived on. -/
  | watch
  /-- One response carrying the diagnostic text of the server stream. -/
  | inspect
  /-- `count` responses of the sum times 1, 2, …, after the sign check. -/
  | count
  deriving DecidableEq, Repr, Inhabited

/-- What a service does with a delivery on one of its subscriptions. -/
inductive Duty where
  /-- Records the delivery decoded as a shape, then answers it with a value or an error text. -/
  | note (sub : Nat) (shape : Shape) (answer : Option Value) (failWith : Option String)
  /-- Answers the sum of a request's two integers; a negative first one is refused. -/
  | sum
  /-- Answers telemetry pings with pongs. -/
  | ping
  /-- Passes replies on to a client stream. -/
  | listen (stream : Nat)
  /-- Serves a unary method under a label; a slow one answers after five seconds. -/
  | unary (label : String) (slow : Bool)
  /-- Serves a server-streaming method under a label. -/
  | serverStream (label : String) (style : StreamStyle)
  /-- Serves a bidirectional method under a label. -/
  | bidi (label : String)
  deriving Inhabited

/-- What a route does with each message it gets. -/
inductive Handler where
  /-- Records the message; with `echo`, publishes the reversed payload to its reply subject. -/
  | note (sub : Nat) (echo : Bool)
  /-- Keeps the first message: the inbox of a request. -/
  | inbox
  /-- Hands the message to a service, which counts it and does its duty. -/
  | service (svc : Nat) (duty : Duty)
  deriving Inhabited

/-- What a subscription of a script has received. -/
inductive Receipt where
  /-- A message as it came. -/
  | raw (m : Message)
  /-- A message, the value it decodes to (or why not), and how answering it went. -/
  | decoded (m : Message) (value : Except ServiceError Value)
      (answer : Option (Except ServiceError Unit))
  deriving Inhabited

/-- The message of a receipt. -/
def Receipt.message : Receipt → Message
  | .raw m => m
  | .decoded m _ _ => m

/-- A subscription of a script: its route and what it has received. -/
structure Subscription where
  route : Nat
  receipts : Array Receipt := #[]
  deriving Inhabited

/-- Who holds the receiving end of a service's publish queue. -/
inductive Receiver where
  /-- The service, until it starts: queued envelopes wait. -/
  | held
  /-- The run loop, which drains the queue. -/
  | taken
  /-- Nobody: the queue is empty for good and refuses envelopes. -/
  | dropped
  deriving DecidableEq, Repr, Inhabited

/-- The state of a service's run loop. -/
inductive Loop where
  /-- Not spawned. -/
  | idle
  /-- Running; the next telemetry report is due at the given time. -/
  | running (nextTick : Nat)
  /-- Stopped. -/
  | finished
  deriving DecidableEq, Repr, Inhabited

/-- A service on the bus with its runtime state. -/
structure Runner where
  service : Service
  /-- The cancellation token of the service. -/
  shutdown : Nat
  counters : Counters := {}
  queue : List Message := []
  receiver : Receiver := .held
  loop : Loop := .idle
  /-- The route answering telemetry pings, once started. -/
  ping : Option Nat := none
  /-- The number of telemetry reports so far. -/
  nonce : Nat := 0
  /-- Status callbacks by name, in name order. -/
  callbacks : List (String × List (String × Value)) := []
  createdAt : Nat := 0
  lastReport : Nat := 0

/-- The client end of a streaming call. -/
structure CallStream where
  svc : Nat
  /-- The context the stream's own context is a child of. -/
  parent : Context
  context : Context
  subject : Subject
  reply : Subject
  /-- Replies waiting to be received. -/
  channel : List Message := []
  /-- The route of the reply subscription, once listening. -/
  route : Option Nat := none
  closed : Bool := false
  sendClosed : Bool := false
  tornDown : Bool := false
  /-- Whether the stream was dropped by its owner. -/
  dropped : Bool := false
  deriving Inhabited

/-- How a registered method of the sample handlers behaves. -/
inductive Behaviour where
  /-- A unary method; a slow one answers after five seconds. -/
  | unary (slow : Bool)
  /-- A server-streaming method. -/
  | serverStream (style : StreamStyle)
  /-- A bidirectional method. -/
  | bidi
  deriving DecidableEq, Repr, Inhabited

/-- The kind of method a behaviour serves. -/
def Behaviour.kind : Behaviour → MethodKind
  | .unary _ => .unary
  | .serverStream _ => .serverStreaming
  | .bidi => .bidiStreaming

/-- The handlers registered for one service: each method name with its behaviour, in name
order. -/
structure Definition where
  fullName : String
  methods : List (String × Behaviour)
  deriving Repr, Inhabited

/-- The registrar binding definitions to the subjects of a server service. -/
structure Registrar where
  svc : Nat
  registry : DescriptorRegistry
  pre : String := ""
  vars : Option (List (String × String)) := none
  /-- The registered definitions, in name order. -/
  definitions : List Definition := []
  /-- The routes of the served methods. -/
  subscriptions : List Nat := []
  started : Bool := false
  /-- The context the registrar serves under. -/
  root : Context
  /-- Whether the watcher still waits for cancellation. -/
  watching : Bool := false

/-- A handler asleep while serving a delivery: when it wakes it answers with a payload. -/
structure Nap where
  route : Nat
  wakeAt : Nat
  svc : Nat
  delivery : Message
  payload : ByteArray

/-- A task of the world. -/
inductive Task where
  /-- The task of a route, handing its messages to the handler. -/
  | route (id : Nat)
  /-- The run loop of a service. -/
  | loop (svc : Nat)
  /-- The registrar's watcher. -/
  | watcher
  /-- The task dropping the reply subscription of a released stream. -/
  | release (route : Nat)
  deriving DecidableEq, Repr, Inhabited

/-- Everything on one bus. -/
structure World where
  now : Nat := 0
  bus : Bus.Table Handler := {}
  tokens : Tokens := {}
  runners : Array Runner := #[]
  streams : Array CallStream := #[]
  registrar : Option Registrar := none
  subs : Array Subscription := #[]
  /-- The number of inbox names made so far. -/
  inboxes : Nat := 0
  /-- The first message of each request inbox. -/
  replies : List (Nat × Message) := []
  ready : List Task := []
  naps : List Nap := []

namespace World

/-- The epoch of the wall clock, in nanoseconds. -/
def epochNanos : Nat := 1700000000000000000

/-- The wall-clock time in nanoseconds. -/
def nanos (w : World) : Int := epochNanos + w.now * 1000000

/-- Wakes a task: it joins the end of the ready list unless it is there already. -/
def wake (w : World) (t : Task) : World :=
  if w.ready.contains t then w else { w with ready := w.ready ++ [t] }

/-- Wakes the tasks of some routes, in order. -/
def wakeRoutes (w : World) (ids : List Nat) : World := ids.foldl (fun w id => w.wake (.route id)) w

/-- The runner of a service index. -/
def runner? (w : World) (svc : Nat) : Option Runner := w.runners[svc]?

/-- Changes the runner of a service index. -/
def modifyRunner (w : World) (svc : Nat) (f : Runner → Runner) : World :=
  { w with runners := w.runners.modify svc f }

/-- The stream of an index. -/
def stream? (w : World) (i : Nat) : Option CallStream := w.streams[i]?

/-- Changes the stream of an index. -/
def modifyStream (w : World) (i : Nat) (f : CallStream → CallStream) : World :=
  { w with streams := w.streams.modify i f }

/-- Changes the subscription of a script's index. -/
def modifySub (w : World) (i : Nat) (f : Subscription → Subscription) : World :=
  { w with subs := w.subs.modify i f }

/-- Counts a message in or out for a service. -/
def count (w : World) (svc : Nat) (inbound : Bool) (bytes : Nat) : World :=
  w.modifyRunner svc fun r =>
    { r with counters := if inbound then r.counters.recordIn bytes else r.counters.recordOut bytes }

/-- A fresh token, a root or a child. -/
def freshToken (w : World) (parent : Option Nat) : World × Nat :=
  let (tokens, k) := w.tokens.fresh parent
  ({ w with tokens }, k)

/-- Whether a token is cancelled. -/
def cancelled (w : World) (k : Nat) : Bool := w.tokens.isCancelled k

/-- Whether a service is shut down. -/
def isShutdown (w : World) (svc : Nat) : Bool :=
  match w.runner? svc with
  | some r => w.cancelled r.shutdown
  | none => true

/-- Cancels a token and wakes the tasks that wait for a cancellation. -/
def cancel (w : World) (k : Nat) : World :=
  let w := { w with tokens := w.tokens.cancel k }
  let w := (List.range w.runners.size).foldl (fun w i =>
    match w.runner? i with
    | some r => if r.shutdown == k then (match r.loop with
        | .running _ => w.wake (.loop i)
        | _ => w) else w
    | none => w) w
  match w.registrar with
  | some g => if g.watching then w.wake .watcher else w
  | none => w

/-- A fresh inbox subject: `_INBOX.` and 32 hexadecimal digits. -/
def freshInbox (w : World) : World × Subject :=
  let digits := String.ofList (Nat.toDigits 16 (w.inboxes + 1))
  let padded := String.ofList (List.replicate (32 - digits.length) '0') ++ digits
  ({ w with inboxes := w.inboxes + 1 }, ⟨"_INBOX." ++ padded⟩)

/-- Adds a route counted as a subscription. -/
def subscribeRoute (w : World) (subject : Subject) (group : Option String) (h : Handler) :
    Except Bus.BusError (World × Nat) :=
  match w.bus.add subject group h with
  | .error e => .error e
  | .ok (bus, id) => .ok ({ w with bus := bus.countSubscribe }, id)

/-- Removes a route, counting the unsubscription when it was live. -/
def unsubscribeRoute (w : World) (id : Nat) : World :=
  { w with bus := w.bus.unsubscribe id }

/-- Removes a route without counting it: a request inbox. -/
def dropRoute (w : World) (id : Nat) : World :=
  { w with bus := (w.bus.remove id).1, replies := w.replies.filter (·.1 != id) }

/-- Publishes a message on the bus and wakes the routes it reached. -/
def publish (w : World) (m : Message) : Except Bus.BusError World :=
  match w.bus.publish m with
  | .error e => .error e
  | .ok (bus, ids) => .ok ({ w with bus }.wakeRoutes ids)

/-- Delivers a message without checks or counting; the routes it reached come back. -/
def deliver (w : World) (m : Message) : World × List Nat :=
  let (bus, ids) := w.bus.deliver m
  ({ w with bus }.wakeRoutes ids, ids)

end World

end Courier.Runtime
