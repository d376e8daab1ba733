import Courier.Script.Services
import Courier.Runtime.Registrar
import Courier.Script.Context

/-!
# Remote call scripts

A remote call script puts a server, a registrar and clients on one bus and then drives them.
The server serves the registered services with the sample handlers: a handler for every
method that can be called (a slow one for `Sleep`, a watch for `Watch`, a diagnostic for
`Inspect`, counting streams otherwise), except the omitted ones, plus extra methods. The
clients call the server's methods under their remote prefix, by unary calls and by streams.

A call's context is a child of a fresh root, with the step's timeout and headers; a stream's
context is a child of a fresh parent of its own, which carries the timeout and headers.
-/

namespace Courier.Script

open Json Courier.Runtime

/-- The behaviour of a sample handler for a method. -/
def behaviourOf (name : String) : MethodKind → Behaviour
  | .unary => .unary (name == "Sleep")
  | .serverStreaming =>
    .serverStream
      (if name == "Watch" then .watch else if name == "Inspect" then .inspect else .count)
  | .bidiStreaming => .bidi

/-- The definition of a service with sample handlers: every method that can be called and is
not omitted, then the extra methods. -/
def definitionFor (registry : DescriptorRegistry) (fullName : String) (omitted : List String)
    (extra : List (String × MethodKind)) : Definition :=
  let base := match registry.service? fullName with
    | some d => (d.methods.filter fun m => !m.skipInputs && !omitted.contains m.name).map fun m =>
        (m.name, behaviourOf m.name m.kind)
    | none => []
  { fullName, methods := Keyed.ofList (base ++ extra.map fun (n, k) => (n, behaviourOf n k)) }

/-- A client connection of a script: its service and its remote. -/
structure Conn where
  svc : Nat
  remote : Remote

/-- The state of a remote call script. -/
structure CallRun where
  world : World
  server : Nat
  conns : Array Conn := #[]
  registry : DescriptorRegistry
  omitted : List String := []
  extra : List (String × MethodKind) := []

/-- A boolean member, true when absent. -/
def flagOn (spec : Value) (key : String) : Bool :=
  match spec.get? key with
  | some (.bool b) => b
  | _ => true

/-- A context with a step's timeout and headers, cancelled when the step asks. -/
def contextFor (w : World) (base : Context) (o : Value) : World × Context :=
  let (c, tokens) := match (o.get? "timeout_ms").bind Value.int? with
    | some ms => base.withTimeout w.tokens w.now ms.toNat
    | none => (base, w.tokens)
  let c := (pairs o "headers").foldl (fun c (k, v) => c.withHeader k v) c
  let w := { w with tokens }
  (if flag o "cancelled" then w.cancel c.token else w, c)

/-- The shape a step asks replies to be decoded as, by default the sample response. -/
def replyShape (o : Value) : Shape := shapeOf ((strOpt o "type").getD "test_response")

/-- The value of a step's request, by default an empty object. -/
def requestOf (o : Value) : Value := (o.get? "request").getD (.object [])

namespace CallRun

/-- The counters, queue length and start state of a service as members. -/
def partyMembers (w : World) (svc : Nat) : Counters × Nat × Bool :=
  match w.runner? svc with
  | some r => (r.counters, r.queue.length, r.receiver != .held)
  | none => ({}, 0, false)

/-- The counts of the bus, the registrar, the server and the clients. -/
def stats (r : CallRun) : Value :=
  let w := r.world
  let (server, serverQueue, _) := partyMembers w r.server
  let clients := r.conns.toList.map fun c =>
    let (counters, queue, started) := partyMembers w c.svc
    obj [("counters", countersValue counters), ("queue", .nat queue), ("started", .bool started)]
  let subs := ((w.registrar.map (·.subscriptions.length)).getD 0)
  obj (statsMembers w.bus ++ [("registrar_subscriptions", .nat subs),
    ("server", countersValue server), ("server_queue", .nat serverQueue),
    ("clients", .array clients)])

/-- The diagnostic text a step asks for. -/
def debug (r : CallRun) (conn : Conn) (o : Value) : Value :=
  let w := r.world
  let described (svc : Nat) := ((w.service? svc).map (·.describe)).getD ""
  match str o "what" with
  | "server" => .string (described r.server)
  | "client" => .string (described conn.svc)
  | "registrar" =>
    match w.registrar, w.service? r.server with
    | some g, some s => .string (registrarText s g.pre (g.definitions.map (·.fullName)))
    | _, _ => .null
  | "conn" =>
    match w.service? conn.svc with
    | some s => .string (connText s conn.remote.pre)
    | none => .null
  | "definition" =>
    let name := (strOpt o "service").getD ServiceDescriptor.sample.fullName
    obj [("full_name", .string name),
      ("debug", .string (definitionText (definitionFor r.registry name r.omitted r.extra)))]
  | what => failure "DriverError" ("unknown debug target " ++ what)

/-- What a step learns of a stream's context and state. -/
def streamInfo (w : World) (s : CallStream) : Value :=
  obj [("has_deadline", .bool s.context.deadline.isSome),
    ("headers", headersValue s.context.headers),
    ("cancelled", doneValue (s.context.err w.tokens w.now)),
    ("debug", .string (clientStreamText s))]

/-- A step on one stream. -/
def streamStep (r : CallRun) (i : Nat) (s : CallStream) (o : Value) : CallRun × Value :=
  let w := r.world
  let done (w : World) (v : Value) : CallRun × Value := ({ r with world := w }, v)
  let response (v : Value) : Value := obj [("response", v)]
  match str o "op" with
  | "send" =>
    let (w, out) := (w.send i (requestOf o)).conclude (nat o "wait_ms" 8000)
    done w (outcomeValue out.asCall (fun _ => okTrue) id)
  | "listen" =>
    let (w, out) := w.listen i
    done w (outcomeValue out (fun _ => okTrue) id)
  | "recv" =>
    let (w, out) := (w.receive i (replyShape o)).conclude (nat o "wait_ms" 1000)
    done w (outcomeValue out (fun _ => okTrue) response)
  | "close" => done (w.closeStream i) okTrue
  | "close_send" => done (w.closeSend i) okTrue
  | "drop" => done (w.dropStream i) okTrue
  | "cancel_parent" => done (w.cancel s.parent.token) okTrue
  | "header" => done w (obj [("header", .array []), ("trailer", .array [])])
  | "reply_to" =>
    let m := w.envelope r.server s.reply none (w.encodeFor r.server (field o "value")) {}
    let (w, out) := (w.enqueue r.server m).conclude (nat o "wait_ms" 8000)
    done w (outcomeValue out (fun _ => okTrue) id)
  | "stream_info" => done w (streamInfo w s)
  | op => done w (failure "DriverError" ("unknown op " ++ op))

/-- One step of a remote call script. -/
def step (r : CallRun) (o : Value) : CallRun × Value :=
  let w := r.world
  let done (w : World) (v : Value) : CallRun × Value := ({ r with world := w }, v)
  match r.conns[nat o "conn" 0]? with
  | none => done w (failure "DriverError" "no such connection")
  | some conn =>
    match str o "op" with
    | "invoke" =>
      let (root, tokens) := Context.background w.tokens
      let (base, tokens) := root.child tokens
      let (w, ctx) := contextFor { w with tokens } base o
      let p := w.invoke conn.svc conn.remote ctx (str o "method") (requestOf o) (replyShape o)
      let (w, out) := p.conclude (nat o "wait_ms" 8000)
      done w (outcomeValue out (fun _ => okTrue) fun v => obj [("response", v)])
    | "subject_for" =>
      match conn.remote.subjectFor (str o "method") with
      | .ok s => done w (obj [("subject", .string s.text)])
      | .error e => done w (rpcError e)
    | "open" =>
      let (root, tokens) := Context.background w.tokens
      let (w, parent) := contextFor { w with tokens } root o
      match w.openStream conn.svc conn.remote parent (str o "method") with
      | .ok (w, i) =>
        let s := (w.stream? i).getD default
        done w (obj [("stream", .nat i), ("subject", .string s.subject.text),
          ("reply_subject", .string (shownSubject true s.reply.text))])
      | .error e => done w (rpcError e)
    | "stats" => (r, r.stats)
    | "client_publish" =>
      let m := w.envelope conn.svc ⟨str o "subject"⟩ ((strOpt o "reply").map fun t => ⟨t⟩)
        (w.encodeFor conn.svc (field o "value")) {}
      let (w, out) := (w.enqueue conn.svc m).conclude (nat o "wait_ms" 8000)
      done w (outcomeValue out (fun _ => okTrue) id)
    | "debug" => (r, r.debug conn o)
    | "registrar_start" =>
      let (w, out) := w.startRegistrar
      done w (outcomeValue out (fun _ => okTrue) id)
    | "registrar_stop" => done w.stopRegistrar okTrue
    | "cancel_root" =>
      match w.registrar with
      | some g => done (w.cancel g.root.token) okTrue
      | none => done w okTrue
    | "shutdown" =>
      let svc := if str o "who" == "client" then conn.svc else r.server
      let (w, _) := (w.shutdown svc).conclude (nat o "wait_ms" 8000)
      done w okTrue
    | "sleep" => done (w.sleepFor (nat o "ms" 0)) okTrue
    | _ =>
      let i := nat o "stream" 0
      match w.stream? i with
      | some s => r.streamStep i s o
      | none => done w (failure "DriverError" "no such stream")

end CallRun

/-- The names a script registers: those it lists, by default every service it describes. -/
def registeredNames (i reg : Value) : List String :=
  match reg.get? "register" with
  | some (.array xs) => xs.filterMap Value.str?
  | _ =>
    match i.get? "services" with
    | some (.array xs) => xs.map (str · "full_name")
    | _ => [ServiceDescriptor.sample.fullName]

/-- The extra methods a registrar spec lists: names with kinds, unary by default. -/
def extraMethods (reg : Value) : List (String × MethodKind) :=
  (list reg "extra").map fun m => ((methodOf m).name, (methodOf m).kind)

/-- Sets up a remote call script: the server, the registrar and the clients; the setup's
answer comes back too. -/
def setupCalls (i : Value) : Except Value (CallRun × Value) :=
  let codec := codecOf i
  let (registry, registered) := registryOf i
  let serverSpec := field i "server"
  match Service.make codec (optionsWith "test_prefix" "server" serverSpec) with
  | .error e => .error (serviceError e)
  | .ok server =>
    let (w, svc) := ({} : World).addService server
    let w := if flagOn serverSpec "started" then (w.start svc).1 else w
    let reg := field i "registrar"
    let (root, tokens) := Context.background w.tokens
    let g : Registrar :=
      { svc, registry, pre := str reg "prefix", vars := varsOf (field reg "vars"), root }
    let w := { w with tokens, registrar := some g }
    let omitted := strs reg "omit"
    let extra := extraMethods reg
    let (w, answers) := (registeredNames i reg).foldl (fun (w, acc) name =>
      match w.register (definitionFor registry name omitted extra) with
      | .ok w => (w, acc ++ [okTrue])
      | .error text => (w, acc ++ [failure "Panic" text])) (w, ([] : List Value))
    let (w, start) :=
      if flagOn reg "start" then
        let (w, out) := w.startRegistrar
        (w, [("start", outcomeValue out (fun _ => okTrue) id)])
      else (w, [])
    let subscriptions := ((w.registrar.map (·.subscriptions.length)).getD 0)
    let specs := match i.get? "clients" with
      | some (.array xs) => xs
      | _ => [obj [("prefix", .string "test_client"), ("name", .string "client")]]
    let (w, conns) := specs.foldl (fun (w, conns) spec =>
      match Service.make codec (optionsWith "test_client" "client" spec) with
      | .error _ => (w, conns)
      | .ok s =>
        let (w, c) := w.addService s
        let w := if flagOn spec "started" then (w.start c).1 else w
        let pre := (strOpt spec "remote").getD "test_prefix.server"
        let remote : Remote := { registry, pre, vars := varsOf (field spec "vars") }
        (w, conns.push ⟨c, remote⟩)) (w, (#[] : Array Conn))
    let setup := obj ([("registered", .array registered), ("register", .array answers)] ++ start ++
      [("subscriptions", .nat subscriptions)])
    .ok ({ world := w, server := svc, conns, registry, omitted, extra }, setup)

/-- The answers of a remote call script: its setup and each step's. -/
def runCalls (i : Value) : Value :=
  match setupCalls i with
  | .error e => e
  | .ok (r, setup) =>
    let (_, out) := (list i "steps").foldl (fun (r, out) o =>
      let (r, v) := CallRun.step { r with world := r.world.sleepFor 1 } o
      (r, v :: out)) (r, ([] : List Value))
    ok (obj [("setup", setup), ("results", .array out.reverse)])

end Courier.Script
