import Courier.Runtime.Describe
import Courier.Service.Payloads

/-!
# Handlers and tasks

What each task does when it runs.

A route's task first finishes a handler that was asleep, once its time has come; then, while
the route is live and its channel holds messages, it hands them to the handler one by one. A
handler that falls asleep stops the task until it wakes.

A service handler counts the delivery in when its envelope passes the identity check, and
then does its duty. Failures to answer are only logged, so they leave the world as it was.

A run loop stops at once when its service is cancelled, dropping its queue and its ping
subscription; otherwise it publishes every queued envelope and then every telemetry report
that is due. A report carries the nonce (the report's number in hexadecimal) and a status
map: the callbacks' maps in name order, then the queue, the counters since the previous
report, the uptime and the period, which overwrite callback values of the same name.
-/

namespace Courier.Runtime

open Json

/-- The number of messages and reports one poll of a task handles at most. -/
def pollBudget : Nat := 100000

/-- The time a slow method sleeps before answering, in milliseconds. -/
def slowness : Nat := 5000

namespace World

/-- Publishes the reversed payload of a message to its reply subject, if it has one. -/
def echo (w : World) (m : Message) : World :=
  match m.reply with
  | some r =>
    match w.publish ⟨r, none, ⟨m.payload.data.reverse⟩, {}⟩ with
    | .ok w => w
    | .error _ => w
  | none => w

/-- Records a message for a script's subscription. -/
def note (w : World) (sub : Nat) (r : Receipt) : World :=
  w.modifySub sub fun s => { s with receipts := s.receipts.push r }

/-- Answers a delivery with responses in order, stopping at the first that fails. -/
def sendAll (w : World) (svc : Nat) (delivery : Message) (headers : Headers) :
    List Value → Except ServiceError World
  | [] => .ok w
  | v :: rest =>
    match w.respondWith svc delivery (w.encodeFor svc v) headers with
    | .ok w => sendAll w svc delivery headers rest
    | .error e => .error e

/-- Ends a stream handler: a failure is answered with an error when there is a reply subject. -/
def endStream (w : World) (svc : Nat) (delivery : Message) (label : String)
    (r : Except String World) : World :=
  match r with
  | .ok w => w
  | .error e =>
    if delivery.reply.isSome then w.attempt (w.respondError svc delivery (label ++ ": " ++ e))
    else w

/-- The answer of the summing handler: the wrapped sum, or why there is none. -/
def sumOf (w : World) (svc : Nat) (m : Message) : Except String Value :=
  match w.unmarshalFor svc Shape.sum m with
  | .error e => .error e.message
  | .ok v =>
    let a := intField v "a"
    if a < 0 then .error ("negative value: " ++ toString a)
    else .ok (.int (wrapI64 (a + intField v "b")))

/-- The pong answering a ping, if the ping reads and its time is a number. -/
def pongOf (w : World) (svc : Nat) (m : Message) : Option Value :=
  match w.unmarshalFor svc Shape.telemetryPing m with
  | .error _ => none
  | .ok v =>
    let text (k : String) := ((v.get? k).bind Value.str?).getD ""
    (parseI64 (text "timestamp")).map fun sent =>
      .object [("nonce", .string (text "nonce")), ("timestamp", .string (toString w.nanos)),
        ("owl", .string (toString (saturateI64 (w.nanos - sent))))]

/-- The refusal of a sample request whose integers are both negative. -/
def negative (v : Value) : Option String :=
  let a := intField v "a"
  let b := intField v "b"
  if a < 0 && b < 0 then some ("negative value: a:" ++ toString a ++ " b:" ++ toString b)
  else none

/-- What a unary sample method answers to a request read as `v` that came on `subject` with
`headers`: the wrapped sum, with the subject and the trace headers, or the refusal of two
negative integers. -/
def unaryAnswer (v : Value) (subject : Subject) (headers : Headers) : Except String Value :=
  match negative v with
  | some e => .error e
  | none =>
    let header := ",".intercalate (headers.getAll "trace")
    .ok (sampleResponse (wrapI64 (intField v "a" + intField v "b")) subject.text header)

/-- Serves a unary sample method; whether the handler fell asleep comes back. -/
def serveUnary (w : World) (route svc : Nat) (m : Message) (label : String) (slow : Bool) :
    World × Bool :=
  match w.unmarshalFor svc Shape.sumRequest m with
  | .error e => (w.attempt (w.respondError svc m (label ++ ": " ++ e.message)), false)
  | .ok v =>
    if slow then
      let answer := w.encodeFor svc (sampleResponse 0 "" "")
      let nap : Nap := ⟨route, w.now + slowness, svc, m, answer⟩
      ({ w with naps := w.naps ++ [nap] }, true)
    else match unaryAnswer v m.subject m.headers with
      | .error e => (w.attempt (w.respondError svc m (label ++ ": " ++ e)), false)
      | .ok value => (w.attempt (w.respond svc m value), false)

/-- Serves a server-streaming sample method. -/
def serveStream (w : World) (svc : Nat) (m : Message) (label : String) (style : StreamStyle) :
    World :=
  let run : Except String World :=
    match w.unmarshalFor svc Shape.sumRequest m with
    | .error e => .error e.message
    | .ok v =>
      let sent (r : Except ServiceError World) : Except String World := r.mapError (·.message)
      match style with
      | .watch => sent (w.sendAll svc m {} [sampleResponse 0 m.subject.text ""])
      | .inspect =>
        sent (w.sendAll svc m {} [sampleResponse 0 "" (serverStreamText m.subject {} true)])
      | .count =>
        match negative v with
        | some e => .error e
        | none =>
          let sum := intField v "a" + intField v "b"
          let n := (intField v "count").toNat
          let values := (List.range n).map fun i =>
            sampleResponse (wrapI64 (sum * ((i + 1 : Nat) : Int))) "" ""
          sent (w.sendAll svc m (({} : Headers).insert "x-stream" "1") values)
  w.endStream svc m label run

/-- Serves a bidirectional sample method: one response for its one request. -/
def serveBidi (w : World) (svc : Nat) (m : Message) (label : String) : World :=
  let run : Except String World :=
    match w.unmarshalFor svc Shape.sumRequest m with
    | .error e => .error e.message
    | .ok v =>
      let value := sampleResponse (wrapI64 (intField v "a" + intField v "b")) "" ""
      (w.sendAll svc m (({} : Headers).insert "x-bidi" "1") [value]).mapError (·.message)
  w.endStream svc m label run

/-- Does a service's duty for a delivery; whether the handler fell asleep comes back. -/
def perform (w : World) (route svc : Nat) (m : Message) : Duty → World × Bool
  | .note sub shape answer failWith =>
    let value := w.unmarshalFor svc shape m
    let (w, result) : World × Option (Except ServiceError Unit) :=
      match answer, failWith with
      | some v, _ => match w.respond svc m v with
        | .ok w => (w, some (.ok ()))
        | .error e => (w, some (.error e))
      | none, some t => match w.respondError svc m t with
        | .ok w => (w, some (.ok ()))
        | .error e => (w, some (.error e))
      | none, none => (w, none)
    (w.note sub (.decoded m value result), false)
  | .sum =>
    match w.sumOf svc m with
    | .ok v => (w.attempt (w.respond svc m v), false)
    | .error e => (w.attempt (w.respondError svc m e), false)
  | .ping =>
    match w.pongOf svc m with
    | some pong => (w.attempt (w.respond svc m pong), false)
    | none => (w, false)
  | .listen i =>
    match w.stream? i with
    | some s => if s.closed then (w, false)
      else (w.modifyStream i fun s => { s with channel := s.channel ++ [m] }, false)
    | none => (w, false)
  | .unary label slow => w.serveUnary route svc m label slow
  | .serverStream label style => (w.serveStream svc m label style, false)
  | .bidi label => (w.serveBidi svc m label, false)

/-- Hands a message to a route's handler; whether the handler fell asleep comes back. -/
def handle (w : World) (route : Nat) (m : Message) : Handler → World × Bool
  | .note sub echo =>
    let w := w.note sub (.raw m)
    (if echo then w.echo m else w, false)
  | .inbox =>
    if w.replies.any (·.1 == route) then (w, false)
    else ({ w with replies := w.replies ++ [(route, m)] }, false)
  | .service svc duty =>
    let w := if w.verifies svc m then w.count svc true m.size else w
    w.perform route svc m duty

/-- Hands the waiting messages of a live route to its handler until one falls asleep. -/
def drain (w : World) (route : Nat) : Nat → World
  | 0 => w
  | fuel + 1 =>
    match w.bus.route? route with
    | none => w
    | some r =>
      if !r.live then w
      else match r.channel with
        | [] => w
        | m :: rest =>
          let w := { w with bus := w.bus.modify route fun r => { r with channel := rest } }
          let (w, asleep) := w.handle route m r.handler
          if asleep then w else drain w route fuel

/-- Runs a route's task: a handler asleep finishes once its time has come, then the channel
is drained. -/
def pollRoute (w : World) (route : Nat) : World :=
  match w.naps.find? (·.route == route) with
  | some nap =>
    if nap.wakeAt ≤ w.now then
      let w := { w with naps := w.naps.filter (·.route != route) }
      (w.attempt (w.respondWith nap.svc nap.delivery nap.payload {})).drain route pollBudget
    else w
  | none => w.drain route pollBudget

/-- The status map of a telemetry report, with the counters it reports. -/
def status (w : World) (r : Runner) : List (String × Value) :=
  let merged := r.callbacks.foldl
    (fun acc (_, m) => m.foldl (fun acc (k, v) => Keyed.insert k v acc) acc) []
  let c := r.counters
  let own : List (String × Value) :=
    [("uptime", .float (Binary64.ofRatio false (w.now - r.createdAt) 1000)),
      ("period", .float (Binary64.ofRatio false (w.now - r.lastReport) 1000)),
      ("publish_queue", .nat r.queue.length),
      ("publish_queue_cap", .nat r.service.options.publishQueueSize),
      ("msg_in", .nat c.msgIn), ("msg_out", .nat c.msgOut),
      ("bytes_in", .nat c.bytesIn), ("bytes_out", .nat c.bytesOut)]
  own.foldl (fun acc (k, v) => Keyed.insert k v acc) merged

/-- Publishes a telemetry report of a service and resets its counters. -/
def report (w : World) (svc : Nat) : World :=
  match w.runner? svc with
  | none => w
  | some r =>
    let nonce := r.nonce + 1
    let body : Value := .object [("nonce", .string (String.ofList (Nat.toDigits 16 nonce))),
      ("status", .object (w.status r))]
    let w := w.modifyRunner svc fun r =>
      { r with nonce, counters := {}, lastReport := w.now }
    let m := w.envelope svc (r.service.subject ["telemetry"]) none (w.encodeFor svc body) {}
    w.attempt (w.publishNow svc m)

/-- Stops a run loop: the ping subscription goes and the queue is dropped. -/
def stopLoop (w : World) (svc : Nat) : World :=
  match w.runner? svc with
  | none => w
  | some r =>
    let w := match r.ping with
      | some id => w.unsubscribeRoute id
      | none => w
    w.modifyRunner svc fun r => { r with queue := [], receiver := .dropped, loop := .finished }

/-- Runs a service's loop: stop when cancelled, else publish the queue, then the reports due. -/
def pollLoop (w : World) (svc : Nat) : Nat → World
  | 0 => w
  | fuel + 1 =>
    match w.runner? svc with
    | none => w
    | some r =>
      match r.loop with
      | .running tick =>
        if w.cancelled r.shutdown then w.stopLoop svc
        else match r.queue with
          | m :: rest =>
            let w := w.modifyRunner svc fun r => { r with queue := rest }
            pollLoop (w.attempt (w.publishNow svc m)) svc fuel
          | [] =>
            if tick ≤ w.now then
              let period := r.service.options.telemetryPeriodMs
              let w := w.modifyRunner svc fun r => { r with loop := .running (tick + period) }
              pollLoop (w.report svc) svc fuel
            else w
      | _ => w

/-- Runs the registrar's watcher: once the registrar's context or service is cancelled, every
served subscription goes. -/
def pollWatcher (w : World) : World :=
  match w.registrar with
  | some g =>
    if g.watching && (w.cancelled g.root.token || w.isShutdown g.svc) then
      let w := g.subscriptions.foldl (fun w id => w.unsubscribeRoute id) w
      { w with registrar := some { g with subscriptions := [], watching := false } }
    else w
  | none => w

/-- Runs one task. -/
def poll (w : World) : Task → World
  | .route id => w.pollRoute id
  | .loop svc => w.pollLoop svc pollBudget
  | .watcher => w.pollWatcher
  | .release id => w.unsubscribeRoute id

end World

end Courier.Runtime
