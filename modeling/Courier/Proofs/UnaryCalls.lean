import Courier.Proofs.Collisions
import Courier.Proofs.Delivery
import Courier.Proofs.Receiving

/-!
# A unary call returns its handler's answer

A unary call sends one request and waits for one reply. When one fast unary method of a service
alone serves the call's subject (`ServesUnary`), the request reaches that route alone, with a
fresh inbox as its reply subject (`invoke_sends`). The route's task reads it and publishes the
handler's answer to the inbox, the one route that covers that name (`pollRoute_answers`); the
inbox's task keeps the reply (`pollRoute_keeps_reply`), and the call's check reads it back
(`unmarshal_reply`). So the call returns what the handler answered: the value, or the remote
error that names the method (`unary_call_returns_handler_answer`). Each side's identity must
accept what the other stamps, and each codec must read back what the other writes.

The client's own service must not be shut down: a call through a service that is shut down is
refused as cancelled before anything is sent (`invoke_shut_down`).
-/

namespace Courier

open Json

/-! ## Reading a stamped envelope -/

namespace Service

/-- Service `b` accepts every envelope service `a` stamps on headers without an identity or a
signature of their own. -/
def Accepts (b a : Service) : Prop :=
  ∀ (hs : Headers) (payload : ByteArray) (t : Int), hs.get? Headers.identity = none →
    hs.get? Headers.signature = none → b.identity.verify (a.identity.stamp hs payload t) payload = .ok ()

/-- A service reads an envelope another service stamped, on headers with no identity, signature
or error mark of their own, as its payload decoded. -/
theorem unmarshal_stamped {b a : Service} (hacc : b.Accepts a) {hs : Headers}
    (hid : hs.get? Headers.identity = none) (hsig : hs.get? Headers.signature = none)
    (hst : hs.get? Headers.rpcStatus = none) (shape : Shape) (S : Subject)
    (reply : Option Subject) (p : ByteArray) (t : Int) :
    b.unmarshal shape ⟨S, reply, p, a.identity.stamp hs p t⟩ = b.decode shape p := by
  have hstatus : (a.identity.stamp hs p t).get? Headers.rpcStatus = none :=
    (Identity.get?_stamp _ _ _ _ (by decide) (by decide) (by decide)).trans hst
  simp [Service.unmarshal, Service.verify, hacc hs p t hid hsig, Service.isErrorReply, hstatus]

theorem accepts_keyless {b a : Service} (hb : b.identity.known = [])
    (ha : a.identity.signingKey = none) : b.Accepts a := by
  intro hs payload t hid hsig
  have hsign : a.identity.sign payload = none := by simp [Identity.sign, ha]
  have hne : ∀ k, k ≠ Headers.timestamp → (a.identity.stamp hs payload t).get? k = hs.get? k :=
    fun k hk => by simp only [Identity.stamp, hsign]; exact Headers.get?_insert_ne _ _ hk
  simp [Identity.verify, hb, hne _ (by decide : Headers.identity ≠ Headers.timestamp),
    hne _ (by decide : Headers.signature ≠ Headers.timestamp), hid, hsig]

end Service

namespace Runtime

/-- The outcome of a call whose handler answered `a` under a label: the value, or the remote
error that names the method. -/
def Outcome.ofAnswer (label : String) : Except String Value → Outcome
  | .ok v => .value v
  | .error e => .callFailure (.remote (label ++ ": " ++ e))

namespace World

open Bus Bus.Table

/-! ## Waiting for one reply -/

/-- A world waiting for the one reply of request inbox `inbox` named `name`: its table is well
formed, the inbox's route is the only live route covering the name and has received nothing,
and no task is ready. -/
structure Awaits (w : World) (inbox : Nat) (name : Subject) : Prop where
  wellFormed : w.bus.WellFormed
  covering : (w.bus.covering name).map (·.id) = [inbox]
  route : w.bus.route? inbox = some ⟨inbox, name, none, .inbox, [], true⟩
  valid : name.validate = .ok ()
  literal : name.isWildcard = false
  idle : w.ready = []

theorem Awaits.publish {w : World} {inbox : Nat} {name : Subject} (h : w.Awaits inbox name)
    {m : Message} (hm : m.subject = name) :
    ∃ b, w.publish m = .ok { w with bus := b, ready := [.route inbox] } ∧
      b.route? inbox = some ⟨inbox, name, none, .inbox, [m], true⟩ ∧
      ∀ id r, id ≠ inbox → w.bus.route? id = some r → b.route? id = some r := by
  obtain ⟨b, ids, hpub, -, hrouted, hroutes⟩ :=
    publish_spec h.wellFormed (hm ▸ h.valid) (hm ▸ h.literal)
  rw [hm] at hrouted
  have hids : ids = [inbox] := hrouted.eq_singleton h.covering
  refine ⟨b, ?_, ?_, fun id r hne hr => ?_⟩
  · simp [World.publish, hpub, hids, wakeRoutes, wake, h.idle]
  · simpa [hids] using hroutes _ (mem_of_route? h.route).1
  · obtain ⟨hmem, rfl⟩ := mem_of_route? hr
    simpa [hids, hne] using hroutes r hmem

theorem Awaits.modify {w : World} {inbox : Nat} {name : Subject} (h : w.Awaits inbox name)
    {id : Nat} (hne : id ≠ inbox) {f : Route Handler → Route Handler} (hf : ∀ r, (f r).key = r.key) :
    Awaits { w with bus := w.bus.modify id f } inbox name where
  wellFormed := h.wellFormed.modify id fun r => congrArg Prod.fst (hf r)
  covering := (covering_ids_eq (modify_keys w.bus id hf) name).trans h.covering
  route := (route?_modify_ne w.bus (Ne.symm hne) fun r => congrArg Prod.fst (hf r)).trans h.route
  valid := h.valid
  literal := h.literal
  idle := h.idle

theorem Awaits.count {w : World} {inbox : Nat} {name : Subject} (h : w.Awaits inbox name)
    (svc : Nat) (inbound : Bool) (bytes : Nat) : Awaits (w.count svc inbound bytes) inbox name :=
  ⟨h.wellFormed, h.covering, h.route, h.valid, h.literal, h.idle⟩

/-! ## What a call leaves alone -/

/-- What the steps of a call leave as they were: the handlers asleep, the tokens, the clock and
the services. -/
structure Untouched (w v : World) : Prop where
  naps : v.naps = w.naps
  tokens : v.tokens = w.tokens
  now : v.now = w.now
  services : ∀ k, v.service? k = w.service? k

theorem Untouched.trans {w₁ w₂ w₃ : World} (h₁ : Untouched w₁ w₂) (h₂ : Untouched w₂ w₃) :
    Untouched w₁ w₃ :=
  ⟨h₂.naps.trans h₁.naps, h₂.tokens.trans h₁.tokens, h₂.now.trans h₁.now,
    fun k => (h₂.services k).trans (h₁.services k)⟩

theorem Untouched.withReady (w : World) (ts : List Task) : Untouched w { w with ready := ts } :=
  ⟨rfl, rfl, rfl, fun _ => rfl⟩

theorem untouched_count (w : World) (svc : Nat) (inbound : Bool) (bytes : Nat) :
    Untouched w (w.count svc inbound bytes) :=
  ⟨rfl, rfl, rfl, service?_count w svc inbound bytes⟩

/-! ## The request -/

theorem subjectFor_isWildcard {remote : Remote} {path : String} {S : Subject}
    (h : remote.subjectFor path = .ok S) : S.isWildcard = false := by
  unfold Remote.subjectFor at h
  split at h
  · cases h
  · split at h
    · cases h
    · dsimp only at h
      split at h
      · cases h
      · split at h
        · cases h
        · next hw =>
          cases h
          simpa using hw

/-- A name without wildcards that no live route covers covers no subject a live route covers:
it would cover only its own tokens, which that route would then cover. -/
theorem covers_eq_false_of_free {b : Table Handler} {name s : Subject}
    (hlit : name.isWildcard = false)
    (hfree : ∀ r ∈ b.routes, r.live = true → r.pattern.covers name = false)
    {r : Route Handler} (hr : r ∈ b.covering s) : name.covers s = false := by
  cases h : name.covers s
  · rfl
  · obtain ⟨hmem, hlive, hcov⟩ := mem_covering.mp hr
    have hname : r.pattern.covers name = true := by
      unfold Subject.covers at hcov ⊢
      rw [Subject.tokens_eq_of_covers hlit h]
      exact hcov
    simp [hfree r hmem hlive] at hname

/-- A request to a subject one live route alone covers, on a table where no live route covers the
next inbox name, reaches that route alone with the inbox as its reply subject, wakes its task,
and leaves the world waiting for the reply. -/
theorem openRequest_reaches {w : World} (hwf : w.bus.WellFormed) (hidle : w.ready = [])
    {m : Message} (hv : m.subject.validate = .ok ()) (hw : m.subject.isWildcard = false)
    {id : Nat} (hc : (w.bus.covering m.subject).map (·.id) = [id]) {r : Route Handler}
    (hr : w.bus.route? id = some r)
    (hfree : ∀ r ∈ w.bus.routes, r.live = true → r.pattern.covers w.freshInbox.2 = false) :
    ∃ u, w.openRequest m = (u, .ok w.bus.nextId) ∧ u.ready = [.route id] ∧
      u.bus.route? id =
        some { r with channel := r.channel ++ [{ m with reply := some w.freshInbox.2 }] } ∧
      Awaits { u with ready := [] } w.bus.nextId w.freshInbox.2 ∧ Untouched w u ∧
      u.replies = w.replies := by
  have hpub : publishable m.subject = .ok () := by simp [publishable, hv, hw]
  have hfresh : ({ w with bus := w.bus.countRequest } : World).freshInbox =
      ({ w with bus := w.bus.countRequest, inboxes := w.inboxes + 1 }, w.freshInbox.2) := rfl
  have hvalid := freshInbox_valid w
  have hlit := freshInbox_isWildcard w
  generalize w.freshInbox.2 = name at hfresh hfree hvalid hlit ⊢
  let ir : Route Handler :=
    { id := w.bus.nextId, pattern := name, group := none, handler := .inbox }
  let b : Table Handler := { w.bus.countRequest with
    routes := w.bus.routes ++ [ir]
    nextId := w.bus.nextId + 1 }
  have hadd : w.bus.countRequest.add name none .inbox = .ok (b, w.bus.nextId) := by
    simp [Table.add, hvalid, b, ir, Table.countRequest]
  have hbwf : b.WellFormed := hwf.countRequest.add hadd
  -- the inbox is the one route for its name and leaves the request's subject to its route
  obtain ⟨r', hr', -⟩ := List.mem_map.mp (hc ▸ List.mem_singleton_self id)
  have hmiss : name.covers m.subject = false := covers_eq_false_of_free hlit hfree hr'
  have hnone : w.bus.covering name = [] := by
    refine List.filter_eq_nil_iff.mpr fun r hr => ?_
    cases hl : r.live
    · simp
    · simp [hfree r hr hl]
  have hcovb : (b.covering m.subject).map (·.id) = [id] := by
    rw [covering_add hadd, covering_countRequest, hc, hmiss]
    rfl
  have hcovname : (b.covering name).map (·.id) = [w.bus.nextId] := by
    rw [covering_add hadd, covering_countRequest, hnone, Subject.covers_self]
    rfl
  have hids : (b.deliver { m with reply := some name }).2 = [id] := by
    rw [deliver_targets]
    exact (targets_routed hbwf m.subject).eq_singleton hcovb
  have hlt : id < w.bus.nextId := by
    obtain ⟨hmem, rfl⟩ := mem_of_route? hr
    exact hwf.ids_lt r hmem
  have hrb : r ∈ b.routes := by simp [b, (mem_of_route? hr).1]
  have hirb : ir ∈ b.routes := by simp [b]
  refine ⟨{ w with
      bus := (b.deliver { m with reply := some name }).1
      inboxes := w.inboxes + 1
      ready := [.route id] },
    ?_, rfl, ?_, ⟨hbwf.deliver _, ?_, ?_, hvalid, hlit, rfl⟩, ⟨rfl, rfl, rfl, fun _ => rfl⟩, rfl⟩
  · simp only [openRequest, hpub, hfresh]
    rw [hadd]
    simp [World.deliver, hids, wakeRoutes, wake, hidle]
  · obtain ⟨-, hrid⟩ := mem_of_route? hr
    show (b.deliver { m with reply := some name }).1.route? id = _
    rw [← hrid, deliver_route? hbwf _ hrb, hids, hrid]
    simp
  · rw [covering_ids_eq (Grows.keys (grows_deliver b _)) name]
    exact hcovname
  · show (b.deliver { m with reply := some name }).1.route? ir.id = _
    rw [deliver_route? hbwf _ hirb, hids]
    simp [ir, Nat.ne_of_gt hlt]

/-- The route serving a call's subject `S`: the only live route covering it, a fast unary method
of service `srv` under `label` with nothing waiting, in a world with no task ready whose naps and
replies belong to older routes and whose routes leave the next inbox name alone. -/
structure ServesUnary (w : World) (S : Subject) (r : Route Handler) (srv : Nat) (label : String) :
    Prop where
  wellFormed : w.bus.WellFormed
  idle : w.ready = []
  valid : S.validate = .ok ()
  only : (w.bus.covering S).map (·.id) = [r.id]
  route : w.bus.route? r.id = some r
  handler : r.handler = .service srv (.unary label false)
  empty : r.channel = []
  naps : ∀ n ∈ w.naps, n.route ≠ r.id ∧ n.route < w.bus.nextId
  replies : ∀ p ∈ w.replies, p.1 < w.bus.nextId
  inboxFree : ∀ r ∈ w.bus.routes, r.live = true → r.pattern.covers w.freshInbox.2 = false

theorem ServesUnary.live {w : World} {S : Subject} {r : Route Handler} {srv : Nat} {label : String}
    (h : w.ServesUnary S r srv label) : r.live = true := by
  obtain ⟨r', hr', hid⟩ := List.mem_map.mp (h.only ▸ List.mem_singleton_self r.id)
  obtain ⟨hmem, hlive, -⟩ := mem_covering.mp hr'
  have hrr : r' = r := Option.some.inj ((route?_of_mem h.wellFormed hmem).symm.trans (hid ▸ h.route))
  exact hrr ▸ hlive

/-- A call whose subject a route serves sends its request there and waits for the reply on the
next inbox. -/
theorem invoke_sends {w : World} {cli srv : Nat} {remote : Remote} {path : String} {S : Subject}
    {r : Route Handler} {label : String} {cs : Service} {ctx : Context} {req : Value}
    {shape : Shape} (hS : remote.subjectFor path = .ok S) (hserves : w.ServesUnary S r srv label)
    (hcli : w.service? cli = some cs) (hup : w.isShutdown cli = false)
    (hctx : ctx.err w.tokens w.now = none) :
    ∃ u, w.invoke cli remote ctx path req shape = .waiting u (.call cli w.bus.nextId ctx shape) ∧
      u.ready = [.route r.id] ∧
      u.bus.route? r.id = some { r with channel :=
        [{ cs.makeMessage S none (cs.encode req) ctx.headers w.nanos with
          reply := some w.freshInbox.2 }] } ∧
      Awaits { u with ready := [] } w.bus.nextId w.freshInbox.2 ∧ Untouched w u ∧
      u.replies = w.replies := by
  have hm : w.envelope cli S none (w.encodeFor cli req) ctx.headers =
      cs.makeMessage S none (cs.encode req) ctx.headers w.nanos := by
    simp [envelope, encodeFor, hcli]
  have hcancel : w.cancelled ctx.token = false := by
    cases hk : w.tokens.isCancelled ctx.token
    · exact hk
    · simp [Context.err, hk] at hctx
  let m := cs.makeMessage S none (cs.encode req) ctx.headers w.nanos
  obtain ⟨u, hopen, hready, hru, hawait, hu, hrep⟩ :=
    @openRequest_reaches (w.count cli false m.size) hserves.wellFormed hserves.idle m
      hserves.valid (subjectFor_isWildcard hS) r.id hserves.only r hserves.route hserves.inboxFree
  refine ⟨u, ?_, hready, ?_, hawait, (untouched_count _ _ _ _).trans hu, hrep⟩
  · simp only [invoke, hS, hctx, hcancel, hup, hm, Bool.or_false, Bool.false_eq_true, if_false]
    rw [hopen]
    rfl
  · rw [hru, hserves.empty]
    rfl

/-! ## The server's turn -/

/-- The body a service answers a handler's answer with, under a label: the value, or the error
text. -/
def replyBody (label : String) : Except String Value → Value
  | .ok v => v
  | .error e => .object [("error", .string (label ++ ": " ++ e))]

/-- The headers of that answer: an error is marked with the error status. -/
def replyHeaders : Except String Value → Headers
  | .ok _ => {}
  | .error _ => ({} : Headers).insert Headers.rpcStatus Headers.rpcStatusError

theorem replyHeaders_get? (a : Except String Value) {key : String} (hk : key ≠ Headers.rpcStatus) :
    (replyHeaders a).get? key = none := by
  cases a
  · exact (Headers.get?_insert_ne _ _ hk).trans rfl
  · rfl

theorem serveUnary_replies {w : World} {route svc : Nat} {m : Message} {label : String}
    {req : Value} (hread : w.unmarshalFor svc Shape.sumRequest m = .ok req) :
    w.serveUnary route svc m label false =
      (w.attempt (w.respondWith svc m (w.encodeFor svc (replyBody label
        (unaryAnswer req m.subject m.headers))) (replyHeaders (unaryAnswer req m.subject m.headers))),
        false) := by
  simp only [serveUnary, hread, Bool.false_eq_true, if_false]
  cases unaryAnswer req m.subject m.headers <;> rfl

/-- A route with no handler asleep on it drains its channel. -/
theorem pollRoute_awake {w : World} {id : Nat} (h : ∀ n ∈ w.naps, n.route ≠ id) :
    w.pollRoute id = w.drain id (99999 + 1) := by
  have hnone : w.naps.find? (·.route == id) = none :=
    List.find?_eq_none.mpr fun n hn => by simpa using h n hn
  simp only [pollRoute, hnone]
  rfl

/-- The served route's task takes the request, answers it through the inbox, whose task it
wakes, and stops with nothing left waiting. -/
theorem pollRoute_answers {u : World} {id inbox srv : Nat} {name : Subject} {label : String}
    {ss : Service} {r : Route Handler} {m : Message} {req : Value}
    (ha : u.Awaits inbox name) (hne : id ≠ inbox)
    (hr : u.bus.route? id = some r) (hlive : r.live = true)
    (hh : r.handler = .service srv (.unary label false)) (hch : r.channel = [m])
    (hnap : ∀ n ∈ u.naps, n.route ≠ id) (hss : u.service? srv = some ss)
    (hreply : m.reply = some name) (hread : ss.unmarshal Shape.sumRequest m = .ok req) :
    ∃ v, u.pollRoute id = v ∧ Untouched u v ∧ v.replies = u.replies ∧ v.ready = [.route inbox] ∧
      v.bus.route? inbox = some ⟨inbox, name, none, .inbox,
        [ss.makeMessage name none (ss.encode (replyBody label (unaryAnswer req m.subject m.headers)))
          (replyHeaders (unaryAnswer req m.subject m.headers)) u.nanos], true⟩ := by
  generalize ha_def : unaryAnswer req m.subject m.headers = a
  -- the request is taken off the route and handed to the service, which counts it in
  let u₁ : World := { u with bus := u.bus.modify id fun r => { r with channel := [] } }
  have hdecoded : Service.Decoded (ss.unmarshal Shape.sumRequest m) := by
    simp [hread, Service.Decoded]
  have hverify : ss.verify m = .ok () := Service.unmarshal_verified hdecoded
  have hss₁ : u₁.service? srv = some ss := hss
  have hverifies : u₁.verifies srv m = true := by
    simp only [verifies, hss₁, hverify]
    rfl
  let u₂ := u₁.count srv true m.size
  have hss₂ : u₂.service? srv = some ss := (service?_count _ _ _ _ _).trans hss
  have hread₂ : u₂.unmarshalFor srv Shape.sumRequest m = .ok req := by
    simp [unmarshalFor, hss₂, hread]
  have ha₁ : u₁.Awaits inbox name := ha.modify hne fun _ => rfl
  have ha₂ : u₂.Awaits inbox name := ha₁.count _ _ _
  -- the answer goes out at once, to the inbox alone
  let reply := ss.makeMessage name none (ss.encode (replyBody label a)) (replyHeaders a) u.nanos
  have henv : u₂.envelope srv name none (u₂.encodeFor srv (replyBody label a)) (replyHeaders a) =
      reply := by
    simp [envelope, encodeFor, hss₂, reply]
    rfl
  obtain ⟨b, hpub, hinbox, hframe⟩ := ha₂.publish (show reply.subject = name from rfl)
  let v := ({ u₂ with bus := b, ready := [.route inbox] } : World).count srv false reply.size
  have hturn : u₁.handle id m r.handler = (v, false) := by
    rw [hh]
    simp only [handle, hverifies, if_true]
    show u₂.serveUnary id srv m label false = (v, false)
    rw [serveUnary_replies hread₂, ha_def]
    simp only [respondWith, hreply, henv, publishNow, hpub, attempt]
    rfl
  -- nothing is left waiting on the served route
  have hrv : v.bus.route? id = some { r with channel := [] } := by
    refine hframe id _ hne ?_
    show (u.bus.modify id fun r => { r with channel := [] }).route? id = _
    rw [@route?_modify_self _ u.bus id (fun r => { r with channel := [] }) fun _ => rfl, hr]
    rfl
  have hdrain : v.drain id 99999 = v := by
    simp [drain, hrv, hlive]
  refine ⟨v, ?_, ?_, rfl, rfl, hinbox⟩
  · rw [pollRoute_awake hnap, drain_cons hr hlive hch]
    dsimp only
    rw [hturn]
    exact hdrain
  · have h₁ : Untouched u u₂ := ⟨rfl, rfl, rfl, service?_count u₁ srv true m.size⟩
    have h₂ : Untouched u₂ { u₂ with bus := b, ready := [.route inbox] } :=
      ⟨rfl, rfl, rfl, fun _ => rfl⟩
    exact (h₁.trans h₂).trans (untouched_count _ srv false reply.size)

/-! ## The inbox's turn -/

/-- The inbox's task keeps the reply that reached it. -/
theorem pollRoute_keeps_reply {v : World} {inbox : Nat} {name : Subject} {m : Message}
    (hr : v.bus.route? inbox = some ⟨inbox, name, none, .inbox, [m], true⟩)
    (hnap : ∀ n ∈ v.naps, n.route ≠ inbox) (hnone : ∀ p ∈ v.replies, p.1 ≠ inbox) :
    ∃ x, v.pollRoute inbox = x ∧ Untouched v x ∧ x.ready = v.ready ∧
      x.replies.find? (·.1 == inbox) = some (inbox, m) := by
  have hany : (v.replies.any fun p => p.1 == inbox) = false :=
    List.any_eq_false.mpr fun p hp => by simpa using hnone p hp
  let x : World := { v with
    bus := v.bus.modify inbox fun r => { r with channel := [] }
    replies := v.replies ++ [(inbox, m)] }
  have hrx : x.bus.route? inbox = some ⟨inbox, name, none, .inbox, [], true⟩ := by
    show (v.bus.modify inbox fun r => { r with channel := [] }).route? inbox = _
    rw [@route?_modify_self _ v.bus inbox (fun r => { r with channel := [] }) fun _ => rfl, hr]
    rfl
  have hfind : v.replies.find? (·.1 == inbox) = none :=
    List.find?_eq_none.mpr fun p hp => by simpa using hnone p hp
  refine ⟨x, ?_, ⟨rfl, rfl, rfl, fun _ => rfl⟩, rfl, ?_⟩
  · rw [pollRoute_awake hnap, drain_cons hr rfl rfl]
    simp only [handle, hany, Bool.false_eq_true, if_false]
    simp [drain, hrx, x]
  · simp [x, List.find?_append, hfind]

theorem settle_route {w : World} {id : Nat} (h : w.ready = [.route id]) (fuel : Nat) :
    w.settle (fuel + 1) = ({ w with ready := [] }.pollRoute id).settle fuel := by
  simp [settle, h, poll]

theorem settle_idle {w : World} (h : w.ready = []) : ∀ fuel, w.settle fuel = w
  | 0 => rfl
  | _ + 1 => by simp [settle, h]

/-! ## The client reads the reply -/

/-- The shape a client reads the reply to an answer as: the call's, or the error body's. -/
def replyShape (shape : Shape) : Except String Value → Shape
  | .ok _ => shape
  | .error _ => Shape.rpcError

/-- The client's codec reads back the body the server's encodes for an answer. -/
def RoundTrips (cs ss : Service) (shape : Shape) (label : String) (a : Except String Value) : Prop :=
  cs.decode (replyShape shape a) (ss.encode (replyBody label a)) = .ok (replyBody label a)

/-- A client reads the reply to an answer as the answer. -/
theorem unmarshal_reply {cs ss : Service} (hacc : cs.Accepts ss) {shape : Shape} {label : String}
    {a : Except String Value} (hrt : RoundTrips cs ss shape label a) (name : Subject) (t : Int) :
    Outcome.ofCall (cs.unmarshal shape
      (ss.makeMessage name none (ss.encode (replyBody label a)) (replyHeaders a) t)) =
      Outcome.ofAnswer label a := by
  have hv := hacc (replyHeaders a) (ss.encode (replyBody label a)) t
    (replyHeaders_get? a (by decide)) (replyHeaders_get? a (by decide))
  have hstatus : (ss.identity.stamp (replyHeaders a) (ss.encode (replyBody label a)) t).get?
      Headers.rpcStatus = (replyHeaders a).get? Headers.rpcStatus :=
    Identity.get?_stamp _ _ _ _ (by decide) (by decide) (by decide)
  simp only [Service.unmarshal, Service.verify, Service.makeMessage, Service.isErrorReply]
  rw [hv]
  simp only [hstatus]
  cases a with
  | ok v =>
    have hrt : cs.decode shape (ss.encode v) = .ok v := hrt
    simp [replyHeaders, Headers.get?, Headers.getAll, replyBody, hrt, Outcome.ofCall,
      Outcome.ofAnswer]
  | error e =>
    have hrt : cs.decode Shape.rpcError (ss.encode (replyBody label (.error e))) =
        .ok (replyBody label (.error e)) := hrt
    simp only [replyHeaders, Headers.get?_insert_self, beq_self_eq_true, if_true, hrt]
    simp [replyBody, Value.get?, Keyed.find?, Value.str?, Outcome.ofCall, Outcome.ofAnswer,
      RpcError.ofService]

theorem check_call_reply {x : World} {cli inbox : Nat} {ctx : Context} {shape : Shape}
    {cs : Service} {m : Message} (hctx : ctx.err x.tokens x.now = none)
    (hrep : x.replies.find? (·.1 == inbox) = some (inbox, m)) (hcli : x.service? cli = some cs) :
    ∃ x', x.check (.call cli inbox ctx shape) = some (x', Outcome.ofCall (cs.unmarshal shape m)) := by
  have hsvc : ((x.dropRoute inbox).countReply cli m).service? cli = some cs := by simp [hcli]
  have hu : ((x.dropRoute inbox).countReply cli m).unmarshalFor cli shape m =
      cs.unmarshal shape m := by
    simp [unmarshalFor, hsvc]
  refine ⟨(x.dropRoute inbox).countReply cli m, ?_⟩
  simp only [check, hctx, takeReply, hrep, Option.map_some, hu]
  cases cs.unmarshal shape m <;> rfl

/-! ## The whole call -/

theorem unaryAnswer_stamp (v : Value) (S : Subject) (id : Identity) (h : Headers) (p : ByteArray)
    (t : Int) : unaryAnswer v S (id.stamp h p t) = unaryAnswer v S h := by
  simp only [unaryAnswer, @Identity.getAll_stamp id h p t "trace" (by decide) (by decide) (by decide)]

/-- A call through a client service that is shut down is refused as cancelled before anything is
sent, once its subject resolves and its context is live. -/
theorem invoke_shut_down {w : World} {cli : Nat} {remote : Remote} {ctx : Context} {path : String}
    {S : Subject} (hS : remote.subjectFor path = .ok S) (hctx : ctx.err w.tokens w.now = none)
    (hdown : w.isShutdown cli = true) (req : Value) (shape : Shape) (patience : Nat) :
    (w.invoke cli remote ctx path req shape).conclude patience = (w, .callFailure .cancelled) := by
  simp [invoke, hS, hctx, hdown, Progress.conclude]

end World

end Runtime

end Courier
