import Courier.Script.Plain

/-!
# Service bus scripts

A service bus script makes services on one bus (each from its options, all with the script's
codec) and then drives them step by step: starting and stopping them, publishing through
their queues or at once, serving sums, subscribing recording handlers that can answer, sending
requests, and reading counters and what the handlers received. A step names its service by
its place in the list; a step may also name its target by a literal subject or by the
suffixes of the service's own subjects.

A recording handler's deliveries are shown as the script asked: briefly (the payload only as
whether it is empty, signatures hidden), with some decoded fields masked, and with the
delivery's diagnostic text.
-/

namespace Courier.Script

open Json Courier.Runtime

/-- How a script shows what a recording handler received. -/
structure View where
  brief : Bool := false
  /-- Dotted paths of decoded fields to hide. -/
  mask : List (List String) := []
  debug : Bool := false
  deriving Inhabited

/-- The state of a service bus script: the world, the world's index of each listed service
(none when the service could not be made), and how each subscription is shown. -/
structure ServiceRun where
  world : World := {}
  slots : Array (Option Nat) := #[]
  views : List (Nat × View) := []

/-- A decoded value with the field at a path, when present, replaced by `"<masked>"`. -/
def maskAt (v : Value) : List String → Value
  | [] => v
  | [k] =>
    match v with
    | .object ms =>
      .object (ms.map fun (k', x) => if k' == k then (k', .string "<masked>") else (k', x))
    | _ => v
  | k :: rest =>
    match v with
    | .object ms => .object (ms.map fun (k', x) => if k' == k then (k', maskAt x rest) else (k', x))
    | _ => v

/-- A decoded value with every path of a list masked. -/
def maskAll (v : Value) (paths : List (List String)) : Value := paths.foldl maskAt v

/-- The dotted paths a step lists under `mask`. -/
def maskPaths (o : Value) : List (List String) := (strs o "mask").map (·.splitOn ".")

/-- A received envelope as a value: briefly, or in full with sending times hidden. -/
def envelopeShown (brief : Bool) (m : Message) : Value :=
  obj [("headers", .array (m.headers.entries.map fun (k, vs) =>
      .array [.string k, strList (vs.map fun v =>
        if brief && k == Headers.signature then "<sig>" else shownHeader true k v)])),
    ("payload", if brief then obj [("nonempty", .bool (m.size != 0))] else bytesValue m.payload),
    ("reply", match m.reply with
      | some r => .string (shownSubject true r.text)
      | none => .null),
    ("subject", .string (shownSubject true m.subject.text))]

/-- A receipt of a recording handler as a value. -/
def receiptValue (view : View) : Receipt → Value
  | .raw m => envelopeShown view.brief m
  | .decoded m value answer =>
    let head := [("message", envelopeShown view.brief m)]
    let debug := if view.debug then [("debug", .string (deliveryText true m))] else []
    let decoded := match value with
      | .ok v => [("value", maskAll v view.mask)]
      | .error e => [("result", serviceError e)]
    let answered := match answer with
      | some (.ok ()) => [("respond", okTrue)]
      | some (.error e) => [("respond", serviceError e)]
      | none => []
    obj (head ++ debug ++ decoded ++ answered)

/-- The counters of a service as a value. -/
def countersValue (c : Counters) : Value :=
  obj [("bytes_in", .nat c.bytesIn), ("bytes_out", .nat c.bytesOut), ("msg_in", .nat c.msgIn),
    ("msg_out", .nat c.msgOut)]

/-- The subject a step targets: a literal subject, or the service's subject of suffixes. -/
def targetOf (s : Service) (o : Value) : Subject :=
  match strOpt o "subject" with
  | some t => ⟨t⟩
  | none => s.subject (strs o "suffixes")

/-- The members of an object value. -/
def membersOf (v : Value) : List (String × Value) :=
  match v with
  | .object ms => ms
  | _ => []

namespace ServiceRun

/-- Puts an envelope on a service's queue, waiting at most the step's patience. -/
def queued (w : World) (svc : Nat) (o : Value) (subject : Subject) (reply : Option Subject)
    (payload : ByteArray) : World × Value :=
  let (w, out) := (w.enqueue svc (w.envelope svc subject reply payload {})).conclude
    (nat o "wait_ms" 8000)
  (w, outcomeValue out (fun _ => okTrue) id)

/-- A step on one service of the world. -/
def serviceStep (r : ServiceRun) (svc : Nat) (s : Service) (o : Value) : ServiceRun × Value :=
  let w := r.world
  let done (w : World) (v : Value) : ServiceRun × Value := ({ r with world := w }, v)
  match str o "op" with
  | "start" =>
    let (w, out) := w.start svc
    done w (outcomeValue out (fun _ => okTrue) id)
  | "is_started" => done w (.bool (w.isStarted svc))
  | "queue_len" => done w (.nat (((w.runner? svc).map (·.queue.length)).getD 0))
  | "counters" => done w (countersValue (((w.runner? svc).map (·.counters)).getD {}))
  | "subject" => done w (.string (s.subject (strs o "suffixes")).text)
  | "serve" =>
    match w.subscribeService svc (targetOf s o) fun _ => .sum with
    | .ok (w, sub) => done w (obj [("sub", .nat sub)])
    | .error e => done w (serviceError e)
  | "subscribe" =>
    let duty (sub : Nat) : Duty :=
      .note sub (shapeOf (str o "type")) (o.get? "respond") (strOpt o "respond_error")
    match w.subscribeService svc (targetOf s o) duty with
    | .ok (w, sub) =>
      let view : View := { brief := flag o "brief", mask := maskPaths o, debug := flag o "debug" }
      ({ r with world := w, views := r.views ++ [(sub, view)] }, obj [("sub", .nat sub)])
    | .error e => done w (serviceError e)
  | "publish" =>
    let (w, v) := queued w svc o (targetOf s o) none (s.encode (field o "value"))
    done w v
  | "publish_buf" =>
    let (w, v) := queued w svc o (targetOf s o) none (payloadOf o)
    done w v
  | "publish_rpc" =>
    let payload := s.encode (field o "value")
    let (w, v) := queued w svc o (targetOf s o) (some ⟨str o "reply"⟩) payload
    done w v
  | "publish_now" =>
    let m := w.envelope svc (targetOf s o) none (payloadOf o) (headersOf o)
    let (w, out) := w.publishAtOnce svc m
    done w (outcomeValue out (fun _ => okTrue) id)
  | "request" =>
    let p := w.request svc (flag o "cancelled") (s.encode (field o "value")) (targetOf s o) {}
      (some (shapeOf (str o "type")))
    let (w, out) := p.conclude (nat o "wait_ms" 1000)
    done w (outcomeValue out (fun _ => okTrue) fun v => obj [("value", maskAll v (maskPaths o))])
  | "request_buf" =>
    let p := w.request svc (flag o "cancelled") (payloadOf o) (targetOf s o) (headersOf o) none
    let (w, out) := p.conclude (nat o "wait_ms" 8000)
    done w (outcomeValue out (fun m => obj [("reply", envelopeShown false m)]) id)
  | "add_status_callback" =>
    done (w.addCallback svc (str o "name") (membersOf (field o "status"))) okTrue
  | "remove_status_callback" => done (w.removeCallback svc (str o "name")) okTrue
  | "info" =>
    done w (obj [("name", .string s.options.name), ("identity", optStr s.identity.public?),
      ("codec", .string s.codec.name), ("debug", .string s.describe)])
  | "fail" => done (w.cancelService svc) okTrue
  | "shutdown" =>
    let (w, _) := (w.shutdown svc).conclude (nat o "wait_ms" 8000)
    done w okTrue
  | op => done w (failure "DriverError" ("unknown op " ++ op))

/-- One step of a service bus script. -/
def step (r : ServiceRun) (o : Value) : ServiceRun × Value :=
  let w := r.world
  match str o "op" with
  | "sleep" => ({ r with world := w.sleepFor (nat o "ms" 0) }, okTrue)
  | "received" =>
    let sub := nat o "sub" 0
    let view := ((r.views.find? (·.1 == sub)).map (·.2)).getD {}
    let receipts := ((w.subs[sub]?).map (·.receipts)).getD #[]
    (r, .array (receipts.toList.map (receiptValue view)))
  | "unsubscribe" => ({ r with world := w.unsubscribeSub (nat o "sub" 0) }, okTrue)
  | "stats" => (r, obj (statsMembers w.bus))
  | _ =>
    match (r.slots[nat o "svc" 0]?).join with
    | some svc =>
      match w.service? svc with
      | some s => r.serviceStep svc s o
      | none => (r, failure "DriverError" "no such service")
    | none => (r, failure "DriverError" "no such service")

end ServiceRun

/-- The answers of a service bus script: how making each service went, and each step's. -/
def runServices (i : Value) : Value :=
  let codec := codecOf i
  let (r, made) := (list i "services").foldl (fun (r, made) spec =>
    match Service.make codec (optionsOf spec) with
    | .ok s =>
      let (w, svc) := r.world.addService s
      (({ r with world := w, slots := r.slots.push (some svc) } : ServiceRun), made ++ [okTrue])
    | .error e => ({ r with slots := r.slots.push none }, made ++ [serviceError e]))
    (({} : ServiceRun), ([] : List Value))
  let (_, out) := (list i "ops").foldl (fun (r, out) o =>
    let (r, v) := ServiceRun.step { r with world := r.world.sleepFor 1 } o
    (r, v :: out)) (r, ([] : List Value))
  ok (obj [("services", .array made), ("results", .array out.reverse)])

end Courier.Script
