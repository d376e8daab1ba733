import Courier.Runtime.Services

/-!
# Remote calls and client streams

A client calls the methods of a remote under the prefix of its connection. A unary call
resolves the method's subject, refuses a context that is already done, and sends a request
whose headers are the context's; its reply is decoded as the caller asks, unless the context
is done first (cancellation is reported before an expired deadline).

A stream is opened with a context of its own, a child of the caller's, and a fresh inbox for
its replies. Sending refuses a closed sending side and a done context, needs a started
service, listens on the inbox (once) and queues the request with the inbox as its reply
subject. Receiving refuses a closed stream; otherwise it waits for a reply unless the context
is done first. Closing is done once: the sending side and the stream close, the context is
cancelled and the reply subscription goes. A dropped stream is closed, and a task drops its
reply subscription later.

Calls on a stream may run at the same time, from several tasks, so each call also comes as steps
between its await points (`Pending`). `listen` and `send` wait for the lock over the stream's
reply subscription and, holding it, for the subscription itself; `send` then waits for room in
its service's queue. `close` sets its flags and cancels the context at once, then waits for the
lock to take the route, and for its unsubscription. A receive waits for a reply. The functions
above are these steps run one after another, with no other call in between.
-/

namespace Courier.Runtime

open Json

/-- A call on a client stream stopped at one of its await points. -/
inductive Pending where
  /-- `listen` (no request) or `send`, past its checks, waiting for the lock over the stream's
  reply subscription. -/
  | lock (request : Option Value)
  /-- Holding the lock, its reply subscription on the way. -/
  | subscribe (request : Option Value)
  /-- `send` waiting for room in its service's queue. -/
  | enqueue (svc : Nat) (m : Message)
  /-- `close` past its flags, waiting for the lock to take the route. -/
  | take
  /-- `close` waiting for route `id` to be unsubscribed. -/
  | unsubscribe (id : Nat)
  /-- A receive waiting for a reply, unless the stream or its context is done first. -/
  | receive (shape : Shape)

/-- Whether a call at this await point holds the lock over the stream's reply subscription. -/
def Pending.holdsLock : Pending → Bool
  | .subscribe _ => true
  | _ => false

/-- Whether a call at this await point waits for the lock. -/
def Pending.needsLock : Pending → Bool
  | .lock _ => true
  | .take => true
  | _ => false

/-- A call on a stream run to its end, or to its next await point. -/
inductive Resumed where
  | done (w : World) (o : Outcome)
  | pending (w : World) (p : Pending)

namespace World

/-- A unary call through a client service; the reply is decoded as a shape. -/
def invoke (w : World) (svc : Nat) (remote : Remote) (ctx : Context) (path : String)
    (request : Value) (shape : Shape) : Progress :=
  match remote.subjectFor path with
  | .error e => .finished w (.callFailure e)
  | .ok subject =>
    match ctx.err w.tokens w.now with
    | some e => .finished w (.callFailure e)
    | none =>
      let m := w.envelope svc subject none (w.encodeFor svc request) ctx.headers
      if w.cancelled ctx.token || w.isShutdown svc then .finished w (.callFailure .cancelled)
      else
        let w := w.count svc false m.size
        match w.openRequest m with
        | (w, .error e) => .finished w (.callFailure (.service (.transport e.message)))
        | (w, .ok inbox) => .waiting w (.call svc inbox ctx shape)

/-- Opens a stream of a client service under a parent context; its index comes back. -/
def openStream (w : World) (svc : Nat) (remote : Remote) (parent : Context) (path : String) :
    Except RpcError (World × Nat) :=
  match remote.subjectFor path with
  | .error e => .error e
  | .ok subject =>
    let (context, tokens) := parent.child w.tokens
    let (w, reply) := { w with tokens }.freshInbox
    let s : CallStream := { svc, parent, context, subject, reply }
    .ok ({ w with streams := w.streams.push s }, w.streams.size)

/-- Why a stream cannot send now, if it cannot. -/
def sendRefusal (w : World) (s : CallStream) : Option RpcError :=
  if s.sendClosed then some .sendClosed else s.context.err w.tokens w.now

/-- Subscribes stream `i`'s reply inbox and keeps the route on the stream. -/
def subscribeReply (w : World) (i : Nat) (s : CallStream) : Except RpcError World :=
  match w.subscribeTo s.svc s.reply (.listen i) with
  | .error e => .error (RpcError.ofService e)
  | .ok (w, id) => .ok (w.modifyStream i fun s => { s with route := some id })

/-- Subscribes a stream's reply inbox, once. -/
def listenOn (w : World) (i : Nat) : Except RpcError World :=
  match w.stream? i with
  | none => .error .streamClosed
  | some s =>
    if s.closed then .error .streamClosed
    else match s.route with
      | some _ => .ok w
      | none => w.subscribeReply i s

/-- Listens for the replies of a stream. -/
def listen (w : World) (i : Nat) : World × Outcome :=
  match w.stream? i with
  | none => (w, .callFailure .streamClosed)
  | some s =>
    match w.sendRefusal s with
    | some e => (w, .callFailure e)
    | none =>
      match w.listenOn i with
      | .ok w => (w, .done)
      | .error e => (w, .callFailure e)

/-- The envelope of a request sent on a stream: to the stream's subject, with its inbox as the
reply subject and its context's headers. -/
def streamEnvelope (w : World) (s : CallStream) (request : Value) : Message :=
  w.envelope s.svc s.subject (some s.reply) (w.encodeFor s.svc request) s.context.headers

/-- Sends a request on a stream through its service's queue. -/
def send (w : World) (i : Nat) (request : Value) : Progress :=
  match w.stream? i with
  | none => .finished w (.callFailure .streamClosed)
  | some s =>
    match w.sendRefusal s with
    | some e => .finished w (.callFailure e)
    | none =>
      if !w.isStarted s.svc then .finished w (.callFailure .notStarted)
      else match w.listenOn i with
        | .error e => .finished w (.callFailure e)
        | .ok w => w.enqueue s.svc (w.streamEnvelope s request)

/-- Receives the next reply of a stream, decoded as a shape. -/
def receive (w : World) (i : Nat) (shape : Shape) : Progress := .waiting w (.receive i shape)

/-- The first step of a close: the stream's flags are set and its context cancelled. -/
def closeFlags (w : World) (i : Nat) (s : CallStream) : World :=
  (w.modifyStream i fun s => { s with tornDown := true, sendClosed := true, closed := true }).cancel
    s.context.token

/-- Takes stream `i`'s route off it, to be unsubscribed. -/
def takeRoute (w : World) (i : Nat) : World × Option Nat :=
  match w.stream? i with
  | none => (w, none)
  | some s => (w.modifyStream i fun s => { s with route := none }, s.route)

/-- Closes a stream, once: its flags, then its route taken and unsubscribed. -/
def closeStream (w : World) (i : Nat) : World :=
  match w.stream? i with
  | none => w
  | some s =>
    if s.tornDown then w
    else
      match (w.closeFlags i s).takeRoute i with
      | (w, some id) => w.unsubscribeRoute id
      | (w, none) => w

/-- Closes the sending side of a stream. -/
def closeSend (w : World) (i : Nat) : World :=
  w.modifyStream i fun s => { s with sendClosed := true }

/-- Drops a stream: it is closed, and its reply subscription goes when the release task runs. -/
def dropStream (w : World) (i : Nat) : World :=
  match w.stream? i with
  | none => w
  | some s =>
    let w := w.modifyStream i fun s => { s with closed := true, dropped := true, route := none }
    match s.route with
    | some id => w.wake (.release id)
    | none => w

/-! ## Await points

A call on a stream runs in steps, from one await point to the next; the calls other tasks make on
the same stream, and the world's own tasks, may run at each of them. -/

/-- Starts `listen` (no request) or `send`: its checks, then the wait for the lock over the
stream's reply subscription. -/
def startSubscriber (w : World) (i : Nat) (request : Option Value) : Resumed :=
  match w.stream? i with
  | none => .done w (.callFailure .streamClosed)
  | some s =>
    match w.sendRefusal s with
    | some e => .done w (.callFailure e)
    | none =>
      if request.isSome && !w.isStarted s.svc then .done w (.callFailure .notStarted)
      else .pending w (.lock request)

/-- What `listen` or `send` does once the stream listens: `listen` is done, `send` queues its
request, or waits for room in the queue. -/
def afterListening (w : World) (s : CallStream) : Option Value → Resumed
  | none => .done w .done
  | some request =>
    let m := w.streamEnvelope s request
    match w.offer s.svc m with
    | some (w, o) => .done w o
    | none => .pending w (.enqueue s.svc m)

/-- Holding the lock: a closed stream refuses, a listening one needs no subscription, and an
idle one starts subscribing, keeping the lock. -/
def lockStep (w : World) (i : Nat) (request : Option Value) : Resumed :=
  match w.stream? i with
  | none => .done w (.callFailure .streamClosed)
  | some s =>
    if s.closed then .done w (.callFailure .streamClosed)
    else match s.route with
      | some _ => w.afterListening s request
      | none => .pending w (.subscribe request)

/-- The subscription made: the route is kept on the stream and the lock released. -/
def subscribeStep (w : World) (i : Nat) (request : Option Value) : Resumed :=
  match w.stream? i with
  | none => .done w (.callFailure .streamClosed)
  | some s =>
    match w.subscribeReply i s with
    | .error e => .done w (.callFailure e)
    | .ok w => w.afterListening s request

/-- Starts `close`: a stream torn down already is left alone; otherwise its flags are set and its
context cancelled at once, and the close waits for the lock to take the route. -/
def startClose (w : World) (i : Nat) : Resumed :=
  match w.stream? i with
  | none => .done w .done
  | some s => if s.tornDown then .done w .done else .pending (w.closeFlags i s) .take

/-- Holding the lock, the close takes the route, which it then unsubscribes. -/
def takeStep (w : World) (i : Nat) : Resumed :=
  match w.takeRoute i with
  | (w, some id) => .pending w (.unsubscribe id)
  | (w, none) => .done w .done

/-- Goes on with a call on stream `i` from its await point, up to its next one; `none` while it
waits for room in the queue or for a reply. Whether the lock is free is for the calls in flight to
say: a call waits for it at `lock` and `take`. -/
def resume (w : World) (i : Nat) : Pending → Option Resumed
  | .lock request => some (w.lockStep i request)
  | .subscribe request => some (w.subscribeStep i request)
  | .enqueue svc m => (w.offer svc m).map fun r => .done r.1 r.2
  | .take => some (w.takeStep i)
  | .unsubscribe id => some (.done (w.unsubscribeRoute id) .done)
  | .receive shape => (w.check (.receive i shape)).map fun r => .done r.1 r.2

end World

end Courier.Runtime
