import Courier.Proofs.PublishQueue

/-!
# Crossings

The envelopes that cross the boundary between a service and the bus, logged by a traced copy of
every path of the runtime that reaches the bus for a service: a publication the bus takes
(`publishNow`, through answers, error answers, stream answers, the queue and reports), a request
handed to the bus, a delivery to one of the service's routes and a reply taken back by one of its
requests, each with whether it passed the identity check; and a report taking the counters.

Each traced function computes the world its own function computes (the `_fst` lemmas), so the
log watches the program without changing it. `BusEvent` lists what may happen in a world of
services one step at a time; `BusEvent.run` runs events with their crossings, and `run_fst` says
it makes the world `BusEvent.play` makes.
-/

namespace Courier.Runtime

open Json Bus

/-- An envelope crossing the boundary between a service and the bus, or a report taking the
service's counters. -/
inductive Crossing where
  /-- The bus took a publication of the service. -/
  | sent (svc : Nat) (m : Message)
  /-- The service handed a request to the bus. -/
  | requested (svc : Nat) (m : Message)
  /-- A route of the service handed an envelope to its handler; whether it passed the identity
  check. -/
  | delivered (svc : Nat) (m : Message) (verified : Bool)
  /-- A request of the service took its reply back; whether it passed the identity check. -/
  | replied (svc : Nat) (m : Message) (verified : Bool)
  /-- A telemetry report took the service's counters. -/
  | took (svc : Nat) (c : Counters)

/-- The service a crossing belongs to. -/
def Crossing.service : Crossing → Nat
  | .sent svc _ | .requested svc _ | .delivered svc _ _ | .replied svc _ _ | .took svc _ => svc

/-- The world an operation leaves, finished or waiting. -/
def Progress.world : Progress → World
  | .finished w _ => w
  | .waiting w _ => w

namespace World

/-! ## The traced handlers -/

/-- `publishNow`, with the publication when the bus takes it. -/
def publishNowTraced (w : World) (svc : Nat) (m : Message) :
    Except ServiceError (World × List Crossing) :=
  (w.publishNow svc m).map fun w => (w, [.sent svc m])

/-- `respondWith`, traced. -/
def respondWithTraced (w : World) (svc : Nat) (delivery : Message) (payload : ByteArray)
    (headers : Headers) : Except ServiceError (World × List Crossing) :=
  match delivery.reply with
  | none => .error .noReplySubject
  | some r => w.publishNowTraced svc (w.envelope svc r none payload headers)

/-- `respond`, traced. -/
def respondTraced (w : World) (svc : Nat) (delivery : Message) (v : Value) :
    Except ServiceError (World × List Crossing) :=
  w.respondWithTraced svc delivery (w.encodeFor svc v) {}

/-- `respondError`, traced. -/
def respondErrorTraced (w : World) (svc : Nat) (delivery : Message) (text : String) :
    Except ServiceError (World × List Crossing) :=
  w.respondWithTraced svc delivery (w.encodeFor svc (.object [("error", .string text)]))
    (({} : Headers).insert Headers.rpcStatus Headers.rpcStatusError)

/-- `attempt`, traced: a failure crosses nothing. -/
def attemptTraced (w : World) (r : Except ServiceError (World × List Crossing)) :
    World × List Crossing :=
  match r with
  | .ok p => p
  | .error _ => (w, [])

/-- `sendAll`, traced. -/
def sendAllTraced (w : World) (svc : Nat) (delivery : Message) (headers : Headers) :
    List Value → Except ServiceError (World × List Crossing)
  | [] => .ok (w, [])
  | v :: rest =>
    match w.respondWithTraced svc delivery (w.encodeFor svc v) headers with
    | .ok (w, l) => (sendAllTraced w svc delivery headers rest).map fun p => (p.1, l ++ p.2)
    | .error e => .error e

/-- `endStream`, traced. -/
def endStreamTraced (w : World) (svc : Nat) (delivery : Message) (label : String)
    (r : Except String (World × List Crossing)) : World × List Crossing :=
  match r with
  | .ok p => p
  | .error e =>
    if delivery.reply.isSome then
      w.attemptTraced (w.respondErrorTraced svc delivery (label ++ ": " ++ e))
    else (w, [])

/-- A traced handler's world and crossings, with a handler that stays awake. -/
def awake (p : World × List Crossing) : (World × Bool) × List Crossing := ((p.1, false), p.2)

/-- `serveUnary`, traced. -/
def serveUnaryTraced (w : World) (route svc : Nat) (m : Message) (label : String) (slow : Bool) :
    (World × Bool) × List Crossing :=
  match w.unmarshalFor svc Shape.sumRequest m with
  | .error e => awake (w.attemptTraced (w.respondErrorTraced svc m (label ++ ": " ++ e.message)))
  | .ok v =>
    -- a handler that falls asleep answers when it wakes, in `pollRouteTraced`
    if slow then (w.serveUnary route svc m label slow, [])
    else match unaryAnswer v m.subject m.headers with
      | .error e => awake (w.attemptTraced (w.respondErrorTraced svc m (label ++ ": " ++ e)))
      | .ok value => awake (w.attemptTraced (w.respondTraced svc m value))

/-- `serveStream`, traced. -/
def serveStreamTraced (w : World) (svc : Nat) (m : Message) (label : String)
    (style : StreamStyle) : World × List Crossing :=
  let run : Except String (World × List Crossing) :=
    match w.unmarshalFor svc Shape.sumRequest m with
    | .error e => .error e.message
    | .ok v =>
      let sent (r : Except ServiceError (World × List Crossing)) := r.mapError (·.message)
      match style with
      | .watch => sent (w.sendAllTraced svc m {} [sampleResponse 0 m.subject.text ""])
      | .inspect =>
        sent (w.sendAllTraced svc m {} [sampleResponse 0 "" (serverStreamText m.subject {} true)])
      | .count =>
        match negative v with
        | some e => .error e
        | none =>
          let sum := intField v "a" + intField v "b"
          let n := (intField v "count").toNat
          let values := (List.range n).map fun i =>
            sampleResponse (wrapI64 (sum * ((i + 1 : Nat) : Int))) "" ""
          sent (w.sendAllTraced svc m (({} : Headers).insert "x-stream" "1") values)
  w.endStreamTraced svc m label run

/-- `serveBidi`, traced. -/
def serveBidiTraced (w : World) (svc : Nat) (m : Message) (label : String) :
    World × List Crossing :=
  let run : Except String (World × List Crossing) :=
    match w.unmarshalFor svc Shape.sumRequest m with
    | .error e => .error e.message
    | .ok v =>
      let value := sampleResponse (wrapI64 (intField v "a" + intField v "b")) "" ""
      (w.sendAllTraced svc m (({} : Headers).insert "x-bidi" "1") [value]).mapError (·.message)
  w.endStreamTraced svc m label run

/-- `perform`, traced. -/
def performTraced (w : World) (route svc : Nat) (m : Message) :
    Duty → (World × Bool) × List Crossing
  | .note sub shape answer failWith =>
    let value := w.unmarshalFor svc shape m
    let ((w, result), l) : (World × Option (Except ServiceError Unit)) × List Crossing :=
      match answer, failWith with
      | some v, _ => match w.respondTraced svc m v with
        | .ok (w, l) => ((w, some (.ok ())), l)
        | .error e => ((w, some (.error e)), [])
      | none, some t => match w.respondErrorTraced svc m t with
        | .ok (w, l) => ((w, some (.ok ())), l)
        | .error e => ((w, some (.error e)), [])
      | none, none => ((w, none), [])
    ((w.note sub (.decoded m value result), false), l)
  | .sum =>
    match w.sumOf svc m with
    | .ok v => awake (w.attemptTraced (w.respondTraced svc m v))
    | .error e => awake (w.attemptTraced (w.respondErrorTraced svc m e))
  | .ping =>
    match w.pongOf svc m with
    | some pong => awake (w.attemptTraced (w.respondTraced svc m pong))
    | none => ((w, false), [])
  -- a reply passed on to a client stream stays inside the service
  | .listen i => (w.perform route svc m (.listen i), [])
  | .unary label slow => w.serveUnaryTraced route svc m label slow
  | .serverStream label style => awake (w.serveStreamTraced svc m label style)
  | .bidi label => awake (w.serveBidiTraced svc m label)

/-- `handle`, traced: a service's route delivers the envelope to the service, which counts it in
when it passes the identity check. A plain handler is no service's: its echo and the replies
kept in a request inbox cross nothing here (a reply crosses when its request takes it). -/
def handleTraced (w : World) (route : Nat) (m : Message) :
    Handler → (World × Bool) × List Crossing
  | .service svc duty =>
    let verified := w.verifies svc m
    let w := if verified then w.count svc true m.size else w
    let p := w.performTraced route svc m duty
    (p.1, .delivered svc m verified :: p.2)
  | h => (w.handle route m h, [])

/-- `drain`, traced. -/
def drainTraced (w : World) (route : Nat) : Nat → World × List Crossing
  | 0 => (w, [])
  | fuel + 1 =>
    match w.bus.route? route with
    | none => (w, [])
    | some r =>
      if !r.live then (w, [])
      else match r.channel with
        | [] => (w, [])
        | m :: rest =>
          let w := { w with bus := w.bus.modify route fun r => { r with channel := rest } }
          let ((w, asleep), l) := w.handleTraced route m r.handler
          if asleep then (w, l)
          else
            let p := drainTraced w route fuel
            (p.1, l ++ p.2)

/-- `pollRoute`, traced. -/
def pollRouteTraced (w : World) (route : Nat) : World × List Crossing :=
  match w.naps.find? (·.route == route) with
  | some nap =>
    if nap.wakeAt ≤ w.now then
      let w := { w with naps := w.naps.filter (·.route != route) }
      let p := w.attemptTraced (w.respondWithTraced nap.svc nap.delivery nap.payload {})
      let q := p.1.drainTraced route pollBudget
      (q.1, p.2 ++ q.2)
    else (w, [])
  | none => w.drainTraced route pollBudget

/-- `report`, traced: the report takes the counters, then its publication crosses. -/
def reportTraced (w : World) (svc : Nat) : World × List Crossing :=
  match w.runner? svc with
  | none => (w, [])
  | some r =>
    let nonce := r.nonce + 1
    let body : Value := .object [("nonce", .string (String.ofList (Nat.toDigits 16 nonce))),
      ("status", .object (w.status r))]
    let w := w.modifyRunner svc fun r =>
      { r with nonce, counters := {}, lastReport := w.now }
    let m := w.envelope svc (r.service.subject ["telemetry"]) none (w.encodeFor svc body) {}
    let p := w.attemptTraced (w.publishNowTraced svc m)
    (p.1, .took svc r.counters :: p.2)

/-- `pollLoop`, traced. -/
def pollLoopTraced (w : World) (svc : Nat) : Nat → World × List Crossing
  | 0 => (w, [])
  | fuel + 1 =>
    match w.runner? svc with
    | none => (w, [])
    | some r =>
      match r.loop with
      | .running tick =>
        if w.cancelled r.shutdown then (w.stopLoop svc, [])
        else match r.queue with
          | m :: rest =>
            let w := w.modifyRunner svc fun r => { r with queue := rest }
            let p := w.attemptTraced (w.publishNowTraced svc m)
            let q := pollLoopTraced p.1 svc fuel
            (q.1, p.2 ++ q.2)
          | [] =>
            if tick ≤ w.now then
              let period := r.service.options.telemetryPeriodMs
              let w := w.modifyRunner svc fun r => { r with loop := .running (tick + period) }
              let p := w.reportTraced svc
              let q := pollLoopTraced p.1 svc fuel
              (q.1, p.2 ++ q.2)
            else (w, [])
      | _ => (w, [])

/-- `poll`, traced: the watcher and the release of a route cross nothing. -/
def pollTraced (w : World) : Task → World × List Crossing
  | .route id => w.pollRouteTraced id
  | .loop svc => w.pollLoopTraced svc pollBudget
  | t => (w.poll t, [])

/-- `turn`, traced. -/
def turnTraced (w : World) : World × List Crossing :=
  match w.ready with
  | [] => (w, [])
  | t :: rest => { w with ready := rest }.pollTraced t

/-! ## The traced handlers compute the program's worlds -/

@[simp]
theorem publishNowTraced_fst (w : World) (svc : Nat) (m : Message) :
    (w.publishNowTraced svc m).map Prod.fst = w.publishNow svc m := by
  unfold publishNowTraced
  cases w.publishNow svc m <;> rfl

@[simp]
theorem respondWithTraced_fst (w : World) (svc : Nat) (d : Message) (p : ByteArray)
    (hs : Headers) : (w.respondWithTraced svc d p hs).map Prod.fst = w.respondWith svc d p hs := by
  unfold respondWithTraced respondWith
  cases d.reply with
  | none => rfl
  | some r => exact publishNowTraced_fst ..

@[simp]
theorem respondTraced_fst (w : World) (svc : Nat) (d : Message) (v : Value) :
    (w.respondTraced svc d v).map Prod.fst = w.respond svc d v :=
  respondWithTraced_fst ..

@[simp]
theorem respondErrorTraced_fst (w : World) (svc : Nat) (d : Message) (text : String) :
    (w.respondErrorTraced svc d text).map Prod.fst = w.respondError svc d text :=
  respondWithTraced_fst ..

theorem attemptTraced_fst (w : World) (r : Except ServiceError (World × List Crossing)) :
    (w.attemptTraced r).1 = w.attempt (r.map Prod.fst) := by
  cases r <;> rfl

@[simp]
theorem map_fst_append {ε : Type} (x : Except ε (World × List Crossing)) (l : List Crossing) :
    (x.map fun p => (p.1, l ++ p.2)).map Prod.fst = x.map Prod.fst := by
  cases x <;> rfl

@[simp]
theorem mapError_map_fst {ε ε' : Type} (x : Except ε (World × List Crossing)) (f : ε → ε') :
    (x.mapError f).map Prod.fst = (x.map Prod.fst).mapError f := by
  cases x <;> rfl

@[simp]
theorem sendAllTraced_fst (w : World) (svc : Nat) (d : Message) (hs : Headers) (vs : List Value) :
    (w.sendAllTraced svc d hs vs).map Prod.fst = w.sendAll svc d hs vs := by
  induction vs generalizing w with
  | nil => rfl
  | cons v vs ih =>
    have h := respondWithTraced_fst w svc d (w.encodeFor svc v) hs
    unfold sendAllTraced sendAll
    cases hr : w.respondWithTraced svc d (w.encodeFor svc v) hs with
    | ok p =>
      obtain ⟨w₁, l⟩ := p
      rw [hr] at h
      rw [← h]
      exact (map_fst_append _ _).trans (ih w₁)
    | error e =>
      rw [hr] at h
      rw [← h]
      rfl

theorem endStreamTraced_fst (w : World) (svc : Nat) (d : Message) (label : String)
    (r : Except String (World × List Crossing)) :
    (w.endStreamTraced svc d label r).1 = w.endStream svc d label (r.map Prod.fst) := by
  cases r with
  | ok p => rfl
  | error e =>
    simp only [endStreamTraced, endStream, Except.map]
    split
    · rw [attemptTraced_fst, respondErrorTraced_fst]
    · rfl

@[simp]
theorem serveUnaryTraced_fst (w : World) (route svc : Nat) (m : Message) (label : String)
    (slow : Bool) :
    (w.serveUnaryTraced route svc m label slow).1 = w.serveUnary route svc m label slow := by
  unfold serveUnaryTraced serveUnary
  cases w.unmarshalFor svc Shape.sumRequest m with
  | error e => simp [awake, attemptTraced_fst]
  | ok v =>
    cases slow with
    | true => rfl
    | false => cases hn : unaryAnswer v m.subject m.headers <;> simp [awake, attemptTraced_fst, hn]

@[simp]
theorem serveStreamTraced_fst (w : World) (svc : Nat) (m : Message) (label : String)
    (style : StreamStyle) :
    (w.serveStreamTraced svc m label style).1 = w.serveStream svc m label style := by
  unfold serveStreamTraced serveStream
  rw [endStreamTraced_fst]
  congr 1
  cases w.unmarshalFor svc Shape.sumRequest m with
  | error e => rfl
  | ok v =>
    cases style with
    | watch | inspect => simp
    | count =>
      cases hn : negative v with
      | some e => simp only [hn]; rfl
      | none => simp [hn]

@[simp]
theorem serveBidiTraced_fst (w : World) (svc : Nat) (m : Message) (label : String) :
    (w.serveBidiTraced svc m label).1 = w.serveBidi svc m label := by
  unfold serveBidiTraced serveBidi
  rw [endStreamTraced_fst]
  congr 1
  cases w.unmarshalFor svc Shape.sumRequest m with
  | error e => rfl
  | ok v => simp

@[simp]
theorem performTraced_fst (w : World) (route svc : Nat) (m : Message) (duty : Duty) :
    (w.performTraced route svc m duty).1 = w.perform route svc m duty := by
  cases duty with
  | note sub shape answer failWith =>
    cases answer with
    | some v =>
      have h := respondTraced_fst w svc m v
      cases hr : w.respondTraced svc m v <;> rw [hr] at h <;>
        simp [performTraced, perform, hr, ← h, Except.map]
    | none =>
      cases failWith with
      | some t =>
        have h := respondErrorTraced_fst w svc m t
        cases hr : w.respondErrorTraced svc m t <;> rw [hr] at h <;>
          simp [performTraced, perform, hr, ← h, Except.map]
      | none => rfl
  | sum =>
    simp only [performTraced, perform]
    cases w.sumOf svc m <;> simp [awake, attemptTraced_fst]
  | ping =>
    simp only [performTraced, perform]
    cases w.pongOf svc m <;> simp [awake, attemptTraced_fst]
  | listen i => rfl
  | unary label slow => exact serveUnaryTraced_fst ..
  | serverStream label style => simp [performTraced, perform, awake]
  | bidi label => simp [performTraced, perform, awake]

@[simp]
theorem handleTraced_fst (w : World) (route : Nat) (m : Message) (h : Handler) :
    (w.handleTraced route m h).1 = w.handle route m h := by
  cases h with
  | service svc duty => simp [handleTraced, handle]
  | note sub echo => rfl
  | inbox => rfl

@[simp]
theorem drainTraced_fst (w : World) (route fuel : Nat) :
    (w.drainTraced route fuel).1 = w.drain route fuel := by
  induction fuel generalizing w with
  | zero => rfl
  | succ fuel ih =>
    cases hr : w.bus.route? route with
    | none => simp [drainTraced, drain, hr]
    | some r =>
      cases hl : r.live with
      | false => simp [drainTraced, drain, hr, hl]
      | true =>
        cases hc : r.channel with
        | nil => simp [drainTraced, drain, hr, hl, hc]
        | cons m rest =>
          simp only [drainTraced, drain, hr, hl, hc, Bool.not_true, Bool.false_eq_true, if_false,
            ← handleTraced_fst]
          cases World.handleTraced _ route m r.handler with
          | mk p l => cases p with | mk w₁ asleep => cases asleep <;> simp [ih]

@[simp]
theorem pollRouteTraced_fst (w : World) (route : Nat) :
    (w.pollRouteTraced route).1 = w.pollRoute route := by
  unfold pollRouteTraced pollRoute
  cases w.naps.find? (·.route == route) with
  | none => exact drainTraced_fst ..
  | some nap =>
    by_cases hw : nap.wakeAt ≤ w.now
    · simp [hw, attemptTraced_fst]
    · simp [hw]

@[simp]
theorem reportTraced_fst (w : World) (svc : Nat) : (w.reportTraced svc).1 = w.report svc := by
  unfold reportTraced report
  cases w.runner? svc with
  | none => rfl
  | some r => simp [attemptTraced_fst]

@[simp]
theorem pollLoopTraced_fst (w : World) (svc fuel : Nat) :
    (w.pollLoopTraced svc fuel).1 = w.pollLoop svc fuel := by
  induction fuel generalizing w with
  | zero => rfl
  | succ fuel ih =>
    cases hr : w.runner? svc with
    | none => simp [pollLoopTraced, pollLoop, hr]
    | some r =>
      cases hl : r.loop with
      | idle | finished => simp [pollLoopTraced, pollLoop, hr, hl]
      | running tick =>
        by_cases hc : w.cancelled r.shutdown
        · simp [pollLoopTraced, pollLoop, hr, hl, hc]
        · cases hq : r.queue with
          | cons m rest => simp [pollLoopTraced, pollLoop, hr, hl, hc, hq, ih, attemptTraced_fst]
          | nil =>
            by_cases ht : tick ≤ w.now
            · simp [pollLoopTraced, pollLoop, hr, hl, hc, hq, ht, ih]
            · simp [pollLoopTraced, pollLoop, hr, hl, hc, hq, ht]

@[simp]
theorem pollTraced_fst (w : World) (t : Task) : (w.pollTraced t).1 = w.poll t := by
  cases t <;> simp [pollTraced, poll]

@[simp]
theorem turnTraced_fst (w : World) : w.turnTraced.1 = w.turn := by
  cases hr : w.ready with
  | nil => simp [turnTraced, turn, hr]
  | cons t rest => simp [turnTraced, turn_of_ready hr, hr]

/-! ## The operations of a script -/

/-- The request a service hands to the bus, unless its own token or the service is cancelled. -/
def requestCrossings (w : World) (svc : Nat) (cancelled : Bool) (payload : ByteArray)
    (subject : Subject) (headers : Headers) : List Crossing :=
  if cancelled || w.isShutdown svc then []
  else [.requested svc (w.envelope svc subject none payload headers)]

/-- The request a remote call hands to the bus, unless the method has no subject, or the call's
context, its token or the service is done first. -/
def invokeCrossings (w : World) (svc : Nat) (remote : Remote) (ctx : Context) (path : String)
    (request : Value) : List Crossing :=
  match remote.subjectFor path with
  | .error _ => []
  | .ok subject =>
    match ctx.err w.tokens w.now with
    | some _ => []
    | none =>
      if w.cancelled ctx.token || w.isShutdown svc then []
      else [.requested svc (w.envelope svc subject none (w.encodeFor svc request) ctx.headers)]

/-- The reply a wait takes back to a service's request, if it takes one now; a plain request's
reply is no service's. -/
def replyCrossings (w : World) : Wait → List Crossing
  | .reply (some svc) inbox _ =>
    match w.takeReply inbox with
    | some (w', m) => [.replied svc m (w'.verifies svc m)]
    | none => []
  | .call svc inbox ctx _ =>
    match ctx.err w.tokens w.now with
    | some _ => []
    | none =>
      match w.takeReply inbox with
      | some (w', m) => [.replied svc m (w'.verifies svc m)]
      | none => []
  | _ => []

end World

/-! ## Runs of events -/

/-- What may happen in a world of services, one step at a time: a turn of the ready tasks, a
tick of the clock, the check of an operation's wait and its abandon when patience runs out, and
the operations a script starts: enqueues, starts, cancellations, publications at once, requests
and remote calls of services, subscriptions of services and their removal, plain publications
and requests, new services, and listening on and closing client streams. -/
inductive BusEvent where
  | turn
  | tick (t : Nat)
  | check (wait : Wait)
  | abandon (wait : Wait)
  | offer (svc : Nat) (m : Message)
  | start (svc : Nat)
  | cancel (k : Nat)
  | publishAtOnce (svc : Nat) (m : Message)
  | request (svc : Nat) (cancelled : Bool) (payload : ByteArray) (subject : Subject)
    (headers : Headers) (shape : Option Shape)
  | invoke (svc : Nat) (remote : Remote) (ctx : Context) (path : String) (request : Value)
    (shape : Shape)
  | subscribe (svc : Nat) (subject : Subject) (duty : Nat → Duty)
  | unsubscribe (sub : Nat)
  | publishPlain (m : Message)
  | requestPlain (m : Message)
  | addService (s : Service)
  | listen (stream : Nat)
  | closeStream (stream : Nat)

namespace BusEvent

/-- An event's effect on the world. -/
def apply (w : World) : BusEvent → World
  | turn => w.turn
  | tick t => { w with now := t }.fire t
  | check wait => ((w.check wait).map (·.1)).getD w
  | abandon wait => w.abandon wait
  | offer svc m => ((w.offer svc m).map (·.1)).getD w
  | start svc => (w.start svc).1
  | cancel k => w.cancel k
  | publishAtOnce svc m => (w.publishAtOnce svc m).1
  | request svc cancelled payload subject headers shape =>
    (w.request svc cancelled payload subject headers shape).world
  | invoke svc remote ctx path value shape => (w.invoke svc remote ctx path value shape).world
  | subscribe svc subject duty =>
    match w.subscribeService svc subject duty with
    | .ok (w, _) => w
    | .error _ => w
  | unsubscribe sub => w.unsubscribeSub sub
  | publishPlain m =>
    match w.publish m with
    | .ok w => w
    | .error _ => w
  | requestPlain m => (w.requestPlain m).world
  | addService s => (w.addService s).1
  | listen i => (w.listen i).1
  | closeStream i => w.closeStream i

/-- An event with the crossings it makes. -/
def traced (w : World) : BusEvent → World × List Crossing
  | turn => w.turnTraced
  | check wait => (apply w (check wait), w.replyCrossings wait)
  | publishAtOnce svc m => w.attemptTraced (w.publishNowTraced svc m)
  | request svc cancelled payload subject headers shape =>
    (apply w (request svc cancelled payload subject headers shape),
      w.requestCrossings svc cancelled payload subject headers)
  | invoke svc remote ctx path value shape =>
    (apply w (invoke svc remote ctx path value shape), w.invokeCrossings svc remote ctx path value)
  | e => (apply w e, [])

theorem traced_fst (w : World) (e : BusEvent) : (traced w e).1 = apply w e := by
  cases e
  case turn => exact World.turnTraced_fst w
  case publishAtOnce svc m =>
    rw [traced, World.attemptTraced_fst, World.publishNowTraced_fst]
    simp only [apply, World.publishAtOnce, World.attempt]
    cases w.publishNow svc m <;> rfl
  all_goals rfl

/-- Events one after another, with the crossings they make. -/
def run (w : World) : List BusEvent → World × List Crossing
  | [] => (w, [])
  | e :: es =>
    let p := traced w e
    let q := run p.1 es
    (q.1, p.2 ++ q.2)

/-- The world after events one after another. -/
def play (w : World) (es : List BusEvent) : World := es.foldl apply w

/-- The crossings of a run of events. -/
def trace (w : World) (es : List BusEvent) : List Crossing := (run w es).2

/-- The log only watches: a run computes the world the events make. -/
theorem run_fst (w : World) (es : List BusEvent) : (run w es).1 = play w es := by
  induction es generalizing w with
  | nil => rfl
  | cons e es ih =>
    simp only [run, play, List.foldl_cons]
    rw [ih, traced_fst]
    rfl

end BusEvent

end Courier.Runtime
