import Courier.Runtime.Scheduler

/-!
# Operations on services

What a script does with the services of a world: add them, start and stop them, queue
envelopes, publish at once, send requests, subscribe with a duty, and keep status callbacks.

A request on the bus is checked like a publication, then counted; its reply comes to a fresh
inbox route, which is not counted as a subscription. A request that reaches no route fails at
once with no responders. A service's request is refused when its own token or the service is
cancelled; otherwise it counts out as soon as the bus takes it, whether a reply comes or not.

Starting a service takes the receiving end of its queue (a second start is refused),
subscribes the ping handler to `prefix.name.telemetry.ping` and spawns the run loop, whose
first report is due one period later. When the ping subscription fails, the queue is dropped.
Shutting a service down cancels it and waits for its loop to stop.
-/

namespace Courier.Runtime

open Json

namespace World

/-- Adds a service; its index comes back. -/
def addService (w : World) (s : Service) : World × Nat :=
  let (w, k) := w.freshToken none
  let r : Runner := { service := s, shutdown := k, createdAt := w.now, lastReport := w.now }
  ({ w with runners := w.runners.push r }, w.runners.size)

/-- Sends a request on the bus with a fresh inbox as its reply subject; the inbox route comes
back, or why the request failed. -/
def openRequest (w : World) (m : Message) : World × Except Bus.BusError Nat :=
  match Bus.Table.publishable m.subject with
  | .error e => (w, .error e)
  | .ok () =>
    let w := { w with bus := w.bus.countRequest }
    let (w, inbox) := w.freshInbox
    match w.bus.add inbox none .inbox with
    | .error e => (w, .error e)
    | .ok (bus, id) =>
      let (w, ids) := { w with bus }.deliver { m with reply := some inbox }
      if ids.isEmpty then (w.dropRoute id, .error (.noResponders m.subject))
      else (w, .ok id)

/-- Starts a service. -/
def start (w : World) (svc : Nat) : World × Outcome :=
  match w.runner? svc with
  | none => (w, .serviceFailure .cancelled)
  | some r =>
    match r.receiver with
    | .held =>
      let w := w.modifyRunner svc fun r => { r with receiver := .taken }
      match w.subscribeTo svc (r.service.subject ["telemetry", "ping"]) .ping with
      | .error e =>
        (w.modifyRunner svc fun r => { r with receiver := .dropped, queue := [] },
          .serviceFailure e)
      | .ok (w, id) =>
        let tick := w.now + r.service.options.telemetryPeriodMs
        let w := w.modifyRunner svc fun r =>
          { r with ping := some id, loop := .running tick, lastReport := w.now }
        (w.wake (.loop svc), .done)
    | _ => (w, .serviceFailure .alreadyStarted)

/-- Whether a service has taken the receiving end of its queue. -/
def isStarted (w : World) (svc : Nat) : Bool :=
  match w.runner? svc with
  | some r => r.receiver != .held
  | none => false

/-- Puts an envelope on a service's publish queue, waiting for room. -/
def enqueue (w : World) (svc : Nat) (m : Message) : Progress :=
  match w.offer svc m with
  | some (w, o) => .finished w o
  | none => .waiting w (.room svc m)

/-- Publishes an envelope of a service at once. -/
def publishAtOnce (w : World) (svc : Nat) (m : Message) : World × Outcome :=
  match w.publishNow svc m with
  | .ok w => (w, .done)
  | .error e => (w, .serviceFailure e)

/-- Sends a request of a service and waits for the reply, decoded as a shape when one is
given; `cancelled` says whether the request's own token was cancelled. -/
def request (w : World) (svc : Nat) (cancelled : Bool) (payload : ByteArray) (subject : Subject)
    (headers : Headers) (shape : Option Shape) : Progress :=
  let m := w.envelope svc subject none payload headers
  if cancelled || w.isShutdown svc then .finished w (.serviceFailure .cancelled)
  else
    let w := w.count svc false m.size
    match w.openRequest m with
    | (w, .error e) => .finished w (.serviceFailure (.transport e.message))
    | (w, .ok inbox) => .waiting w (.reply (some svc) inbox shape)

/-- Cancels a service. -/
def cancelService (w : World) (svc : Nat) : World :=
  match w.runner? svc with
  | some r => w.cancel r.shutdown
  | none => w

/-- Shuts a service down: cancelled, then its loop stops. -/
def shutdown (w : World) (svc : Nat) : Progress :=
  .waiting (w.cancelService svc) (.finish svc)

/-- Subscribes a script's handler of a service to a subject; the subscription's index comes
back. -/
def subscribeService (w : World) (svc : Nat) (subject : Subject) (duty : Nat → Duty) :
    Except ServiceError (World × Nat) :=
  let sub := w.subs.size
  match w.subscribeTo svc subject (duty sub) with
  | .error e => .error e
  | .ok (w, id) => .ok ({ w with subs := w.subs.push { route := id } }, sub)

/-- Sets a status callback of a service. -/
def addCallback (w : World) (svc : Nat) (name : String) (status : List (String × Value)) :
    World :=
  w.modifyRunner svc fun r => { r with callbacks := Keyed.insert name status r.callbacks }

/-- Removes a status callback of a service. -/
def removeCallback (w : World) (svc : Nat) (name : String) : World :=
  w.modifyRunner svc fun r => { r with callbacks := Keyed.erase name r.callbacks }

/-- Subscribes a plain handler to a subject, in a queue group if one is given; the
subscription's index comes back. -/
def subscribePlain (w : World) (subject : Subject) (group : Option String) (echo : Bool) :
    Except Bus.BusError (World × Nat) :=
  let sub := w.subs.size
  match w.subscribeRoute subject group (.note sub echo) with
  | .error e => .error e
  | .ok (w, id) => .ok ({ w with subs := w.subs.push { route := id } }, sub)

/-- Drops a script's subscription; only the first time counts. -/
def unsubscribeSub (w : World) (sub : Nat) : World :=
  match w.subs[sub]? with
  | some s => w.unsubscribeRoute s.route
  | none => w

/-- Sends a plain request on the bus and waits for the reply. -/
def requestPlain (w : World) (m : Message) : Progress :=
  match w.openRequest m with
  | (w, .error e) => .finished w (.busFailure e)
  | (w, .ok inbox) => .waiting w (.reply none inbox none)

end World

end Courier.Runtime
