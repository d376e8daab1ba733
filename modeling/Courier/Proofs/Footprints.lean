import Courier.Proofs.ClientStreams

/-!
# What a step of the world touches

A handler answers by publishing (which only adds messages at the end of channels and wakes the
routes it reached), counts envelopes, records them, passes replies on to a stream, falls asleep,
or keeps a request's reply; a route's task takes messages out of its channel and hands them to
the handler. `HandlerClosed R` says that a relation `R` between worlds holds across each of these
effects. It then holds across every handler and every turn of a route's task
(`HandlerClosed.pollRoute`), without the case analysis of the handlers being done again for
each relation.

`Quiet` is one such relation, the footprint of a handler: the registrar, the tokens, the runners
up to their counters and reports, and the liveness of every route stay, and only route tasks are
woken. A run loop may in addition change its own runner and retire its ping route
(`LoopQuiet`). Which routes a step may retire is said by `Table.Fades`.

A wait runs the ready tasks and moves the clock on; `settle_induction`, `await_induction` and
`conclude_induction` carry a property of worlds through it from what one turn, one tick and one
check keep.
-/

namespace Courier

namespace Bus

variable {α : Type}

/-- A route as a later table holds it: the same id and handler, never revived, and still live
unless `gone` allows its retirement. -/
def Route.Fades (gone : Nat → Prop) (r r' : Route α) : Prop :=
  r'.id = r.id ∧ r'.handler = r.handler ∧ (r'.live = true → r.live = true) ∧
    (r.live = true → ¬ gone r.id → r'.live = true)

namespace Route

theorem Fades.refl (gone : Nat → Prop) (r : Route α) : r.Fades gone r :=
  ⟨rfl, rfl, fun h => h, fun h _ => h⟩

theorem Fades.trans {gone : Nat → Prop} {r₁ r₂ r₃ : Route α} (h₁ : r₁.Fades gone r₂)
    (h₂ : r₂.Fades gone r₃) : r₁.Fades gone r₃ :=
  ⟨h₂.1.trans h₁.1, h₂.2.1.trans h₁.2.1, h₁.2.2.1 ∘ h₂.2.2.1,
    fun hl hg => h₂.2.2.2 (h₁.2.2.2 hl hg) (h₁.1 ▸ hg)⟩

theorem Fades.mono {gone gone' : Nat → Prop} (hg : ∀ id, gone id → gone' id) {r r' : Route α}
    (h : r.Fades gone r') : r.Fades gone' r' :=
  ⟨h.1, h.2.1, h.2.2.1, fun hl hn => h.2.2.2 hl fun hgo => hn (hg _ hgo)⟩

theorem forall₂_trans {R : Route α → Route α → Prop} (hR : ∀ a b c, R a b → R b c → R a c) :
    ∀ {l₁ l₂ l₃ : List (Route α)},
      List.Forall₂ R l₁ l₂ → List.Forall₂ R l₂ l₃ → List.Forall₂ R l₁ l₃
  | [], [], [], .nil, .nil => .nil
  | _ :: _, _ :: _, _ :: _, .cons h₁ t₁, .cons h₂ t₂ =>
    .cons (hR _ _ _ h₁ h₂) (forall₂_trans hR t₁ t₂)

theorem find?_of_forall₂ {R : Route α → Route α → Prop} (hR : ∀ {r r'}, R r r' → r'.id = r.id)
    {l l' : List (Route α)} (h : List.Forall₂ R l l') {id : Nat} {r : Route α}
    (hr : l.find? (·.id == id) = some r) : ∃ r', l'.find? (·.id == id) = some r' ∧ R r r' := by
  induction h with
  | nil => cases hr
  | @cons a b _ _ hab _ ih =>
    rw [List.find?_cons] at hr ⊢
    rw [hR hab]
    cases hid : a.id == id
    · simp only [hid] at hr ⊢
      exact ih hr
    · simp only [hid, Option.some.injEq] at hr ⊢
      subst hr
      exact ⟨b, rfl, hab⟩

end Route

namespace Table

/-- `b'` holds the routes of `b` in their places, none revived, and has retired only routes whose
ids are `gone`. -/
def Fades (gone : Nat → Prop) (b b' : Table α) : Prop :=
  List.Forall₂ (Route.Fades gone) b.routes b'.routes

@[simp]
theorem modify_stats (b : Table α) (id : Nat) (f : Route α → Route α) :
    (b.modify id f).stats = b.stats := rfl

/-- Route `id` is live. -/
def Live (b : Table α) (id : Nat) : Prop := ∃ r, b.route? id = some r ∧ r.live = true

/-- Route `id` is in the table and retired. -/
def Retired (b : Table α) (id : Nat) : Prop := ∃ r, b.route? id = some r ∧ r.live = false

theorem Fades.refl (gone : Nat → Prop) (b : Table α) : b.Fades gone b :=
  List.forall₂_same.mpr fun r _ => Route.Fades.refl gone r

theorem Fades.trans {gone : Nat → Prop} {b₁ b₂ b₃ : Table α} (h₁ : b₁.Fades gone b₂)
    (h₂ : b₂.Fades gone b₃) : b₁.Fades gone b₃ := by
  unfold Fades at *
  exact Route.forall₂_trans (fun (a b c : Route α) (hab : a.Fades gone b) hbc => hab.trans hbc)
    h₁ h₂

theorem Fades.mono {gone gone' : Nat → Prop} (hg : ∀ id, gone id → gone' id) {b b' : Table α}
    (h : b.Fades gone b') : b.Fades gone' b' :=
  h.imp fun _ _ => Route.Fades.mono hg

theorem Fades.live {gone : Nat → Prop} {b b' : Table α} (h : b.Fades gone b') {id : Nat}
    (hl : b.Live id) (hg : ¬ gone id) : b'.Live id := by
  obtain ⟨r, hr, hlive⟩ := hl
  obtain ⟨r', hr', hf⟩ := Route.find?_of_forall₂ (fun h => h.1) h hr
  have hid : r.id = id := (mem_of_route? hr).2
  exact ⟨r', hr', hf.2.2.2 hlive (hid ▸ hg)⟩

theorem Fades.retired {gone : Nat → Prop} {b b' : Table α} (h : b.Fades gone b') {id : Nat}
    (hd : b.Retired id) : b'.Retired id := by
  obtain ⟨r, hr, hdead⟩ := hd
  obtain ⟨r', hr', hf⟩ := Route.find?_of_forall₂ (fun h => h.1) h hr
  refine ⟨r', hr', ?_⟩
  cases hl : r'.live
  · rfl
  · simp [hf.2.2.1 hl] at hdead

theorem Grows.fades {b b' : Table α} (h : Grows b b') (gone : Nat → Prop) : b.Fades gone b' := by
  obtain ⟨-, more, hr⟩ := h
  unfold Fades
  rw [hr]
  exact List.forall₂_map_right_iff.mpr (List.forall₂_same.mpr fun r _ => Route.Fades.refl gone r)

theorem fades_modify (b : Table α) (id : Nat) {f : Route α → Route α}
    (hf : ∀ r, (f r).id = r.id ∧ (f r).handler = r.handler ∧ (f r).live = r.live)
    (gone : Nat → Prop) : b.Fades gone (b.modify id f) := by
  unfold Fades modify
  refine List.forall₂_map_right_iff.mpr (List.forall₂_same.mpr fun r _ => ?_)
  split
  · obtain ⟨h₁, h₂, h₃⟩ := hf r
    exact ⟨h₁, h₂, fun h => h₃ ▸ h, fun h _ => h₃ ▸ h⟩
  · exact Route.Fades.refl gone r

theorem fades_unsubscribe (b : Table α) (id : Nat) : b.Fades (· = id) (b.unsubscribe id) := by
  unfold Fades
  rw [unsubscribe_routes]
  unfold remove
  split
  · refine List.forall₂_map_right_iff.mpr (List.forall₂_same.mpr fun r _ => ?_)
    split
    · next h =>
      exact ⟨rfl, rfl, fun h' => absurd h' (by simp), fun _ hg => absurd (by simpa using h) hg⟩
    · exact Route.Fades.refl _ r
  · exact List.forall₂_same.mpr fun r _ => Route.Fades.refl _ r

theorem unsubscribe_live {b : Table α} {id : Nat} (hl : b.Live id) :
    (b.unsubscribe id).Retired id ∧
      (b.unsubscribe id).stats.unsubscribed = b.stats.unsubscribed + 1 := by
  obtain ⟨r, hr, hlive⟩ := hl
  have hremove :
      b.remove id = (b.modify id fun r => { r with live := false, channel := [] }, true) := by
    simp [remove, hr, hlive]
  refine ⟨?_, by simp [unsubscribe, hremove]⟩
  refine ⟨{ r with live := false, channel := [] }, ?_, rfl⟩
  have hroute : (b.unsubscribe id).route? id = (b.remove id).1.route? id := by
    simp only [route?, unsubscribe_routes]
  rw [hroute, hremove]
  dsimp only
  rw [@route?_modify_self α b id (fun r => { r with live := false, channel := [] }) fun _ => rfl,
    hr]
  rfl

theorem fades_foldl_unsubscribe (l : List Nat) (b : Table α) :
    b.Fades (· ∈ l) (l.foldl (fun b id => b.unsubscribe id) b) := by
  induction l generalizing b with
  | nil => exact Fades.refl _ b
  | cons id l ih =>
    exact ((fades_unsubscribe b id).mono fun _ h => h ▸ List.mem_cons_self).trans
      ((ih _).mono fun _ h => List.mem_cons_of_mem _ h)

/-- Unsubscribing distinct live routes one after another retires each of them, and the bus counts
each unsubscription once. -/
theorem foldl_unsubscribe_live {l : List Nat} (hl : l.Nodup) {b : Table α}
    (hlive : ∀ id ∈ l, b.Live id) :
    (∀ id ∈ l, (l.foldl (fun b id => b.unsubscribe id) b).Retired id) ∧
      (l.foldl (fun b id => b.unsubscribe id) b).stats.unsubscribed =
        b.stats.unsubscribed + l.length := by
  induction l generalizing b with
  | nil => exact ⟨fun _ h => absurd h List.not_mem_nil, rfl⟩
  | cons id l ih =>
    obtain ⟨hid, hl⟩ := List.nodup_cons.mp hl
    obtain ⟨hretired, hcount⟩ := unsubscribe_live (hlive id List.mem_cons_self)
    -- the routes after the first are distinct from it, so they stay live when it goes
    have hrest : ∀ id' ∈ l, (b.unsubscribe id).Live id' := fun id' h' =>
      (fades_unsubscribe b id).live (hlive id' (List.mem_cons_of_mem _ h')) fun h => hid (h ▸ h')
    obtain ⟨hretired', hcount'⟩ := ih hl hrest
    refine ⟨fun id' h' => ?_, ?_⟩
    · rcases List.mem_cons.mp h' with rfl | h'
      · exact (fades_foldl_unsubscribe l _).retired hretired
      · exact hretired' id' h'
    · rw [List.foldl_cons, hcount', hcount, List.length_cons]
      omega

end Table

end Bus

namespace Runtime

open Bus Bus.Table

/-- A runner apart from what its reports change: its counters, its count of reports and the time
of the last one. -/
def Runner.gear (r : Runner) : Runner := { r with counters := {}, nonce := 0, lastReport := 0 }

namespace World

/-! ## Relations closed under the effects of handlers -/

/-- A relation between worlds that every effect of a handler respects: it relates each world to
itself, chains, and relates a world to what a publication, a count, a record, a reply passed on
to a stream, a nap, a kept reply, a message taken from a route's channel or the end of a nap
makes of it. -/
structure HandlerClosed (R : World → World → Prop) : Prop where
  refl : ∀ w, R w w
  trans : ∀ {u v w : World}, R u v → R v w → R u w
  publish : ∀ {w w' : World} {m : Message}, w.publish m = .ok w' → R w w'
  count : ∀ (w : World) (svc : Nat) (inbound : Bool) (bytes : Nat), R w (w.count svc inbound bytes)
  note : ∀ (w : World) (sub : Nat) (r : Receipt), R w (w.note sub r)
  listen : ∀ (w : World) (i : Nat) (m : Message),
    R w (w.modifyStream i fun s => { s with channel := s.channel ++ [m] })
  nap : ∀ (w : World) (n : Nap), R w { w with naps := w.naps ++ [n] }
  reply : ∀ (w : World) (route : Nat) (m : Message),
    R w { w with replies := w.replies ++ [(route, m)] }
  take : ∀ (w : World) (id : Nat) (rest : List Message),
    R w { w with bus := w.bus.modify id fun r => { r with channel := rest } }
  wakeUp : ∀ (w : World) (route : Nat), R w { w with naps := w.naps.filter (·.route != route) }

namespace HandlerClosed

variable {R : World → World → Prop}

theorem publishNow (hR : HandlerClosed R) {w w' : World} {svc : Nat} {m : Message}
    (h : w.publishNow svc m = .ok w') : R w w' := by
  unfold World.publishNow at h
  split at h
  · cases h
  · rename_i w₁ hp
    cases h
    exact hR.trans (hR.publish hp) (hR.count _ _ _ _)

theorem respondWith (hR : HandlerClosed R) {w w' : World} {svc : Nat} {d : Message}
    {p : ByteArray} {hs : Headers} (h : w.respondWith svc d p hs = .ok w') : R w w' := by
  unfold World.respondWith at h
  split at h
  · cases h
  · exact hR.publishNow h

theorem attempt (hR : HandlerClosed R) {w : World} {r : Except ServiceError World}
    (h : ∀ w', r = .ok w' → R w w') : R w (w.attempt r) := by
  unfold World.attempt
  split
  · exact h _ rfl
  · exact hR.refl w

theorem sendAll (hR : HandlerClosed R) {w w' : World} {svc : Nat} {d : Message} {hs : Headers}
    {vs : List Json.Value} (h : w.sendAll svc d hs vs = .ok w') : R w w' := by
  induction vs generalizing w with
  | nil => cases h; exact hR.refl _
  | cons v vs ih =>
    unfold World.sendAll at h
    split at h
    · rename_i w₁ h₁
      exact hR.trans (hR.respondWith h₁) (ih h)
    · cases h

theorem endStream (hR : HandlerClosed R) {w : World} {svc : Nat} {d : Message} {label : String}
    {r : Except String World} (h : ∀ w', r = .ok w' → R w w') :
    R w (w.endStream svc d label r) := by
  unfold World.endStream
  split
  · exact h _ rfl
  · split
    · exact hR.attempt fun _ => hR.respondWith
    · exact hR.refl w

theorem serveUnary (hR : HandlerClosed R) (w : World) (route svc : Nat) (m : Message)
    (label : String) (slow : Bool) : R w (w.serveUnary route svc m label slow).1 := by
  unfold World.serveUnary
  split
  · exact hR.attempt fun _ => hR.respondWith
  · split
    · exact hR.nap _ _
    · split
      · exact hR.attempt fun _ => hR.respondWith
      · exact hR.attempt fun _ => hR.respondWith

theorem serveStream (hR : HandlerClosed R) (w : World) (svc : Nat) (m : Message) (label : String)
    (style : StreamStyle) : R w (w.serveStream svc m label style) := by
  unfold World.serveStream
  apply hR.endStream
  intro w' h
  split at h
  · cases h
  · split at h
    · exact hR.sendAll (mapError_eq_ok h)
    · exact hR.sendAll (mapError_eq_ok h)
    · split at h
      · cases h
      · exact hR.sendAll (mapError_eq_ok h)

theorem serveBidi (hR : HandlerClosed R) (w : World) (svc : Nat) (m : Message) (label : String) :
    R w (w.serveBidi svc m label) := by
  unfold World.serveBidi
  apply hR.endStream
  intro w' h
  split at h
  · cases h
  · exact hR.sendAll (mapError_eq_ok h)

theorem perform (hR : HandlerClosed R) (w : World) (route svc : Nat) (m : Message)
    (duty : Duty) : R w (w.perform route svc m duty).1 := by
  cases duty with
  | note sub shape answer failWith =>
    cases answer with
    | some v =>
      cases hr : w.respond svc m v with
      | ok w₁ => simpa [World.perform, hr] using hR.trans (hR.respondWith hr) (hR.note w₁ sub _)
      | error e => simpa [World.perform, hr] using hR.note w sub _
    | none =>
      cases failWith with
      | some t =>
        cases hr : w.respondError svc m t with
        | ok w₁ => simpa [World.perform, hr] using hR.trans (hR.respondWith hr) (hR.note w₁ sub _)
        | error e => simpa [World.perform, hr] using hR.note w sub _
      | none => simpa [World.perform] using hR.note w sub _
  | sum =>
    simp only [World.perform]
    split
    · exact hR.attempt fun _ => hR.respondWith
    · exact hR.attempt fun _ => hR.respondWith
  | ping =>
    simp only [World.perform]
    split
    · exact hR.attempt fun _ => hR.respondWith
    · exact hR.refl w
  | listen i =>
    simp only [World.perform]
    split
    · split
      · exact hR.refl w
      · exact hR.listen w i m
    · exact hR.refl w
  | unary label slow => exact hR.serveUnary w route svc m label slow
  | serverStream label style => exact hR.serveStream w svc m label style
  | bidi label => exact hR.serveBidi w svc m label

theorem echo (hR : HandlerClosed R) (w : World) (m : Message) : R w (w.echo m) := by
  unfold World.echo
  split
  · split
    · exact hR.publish ‹_›
    · exact hR.refl w
  · exact hR.refl w

theorem handle (hR : HandlerClosed R) (w : World) (route : Nat) (m : Message) (h : Handler) :
    R w (w.handle route m h).1 := by
  cases h with
  | note sub echo =>
    cases echo
    · simpa [World.handle] using hR.note w sub (.raw m)
    · simpa [World.handle] using hR.trans (hR.note w sub (.raw m)) (hR.echo _ m)
  | inbox =>
    simp only [World.handle]
    split
    · exact hR.refl w
    · exact hR.reply w route m
  | service svc duty =>
    simp only [World.handle]
    have hcount : R w (if w.verifies svc m then w.count svc true m.size else w) := by
      split
      · exact hR.count _ _ _ _
      · exact hR.refl w
    exact hR.trans hcount (hR.perform _ route svc m duty)

theorem drain (hR : HandlerClosed R) (w : World) (route fuel : Nat) :
    R w (w.drain route fuel) :=
  drain_induction (R w) route
    (fun _ _ m rest hw _ _ _ =>
      hR.trans hw (hR.trans (hR.take _ route rest) (hR.handle _ route m _)))
    (hR.refl w) fuel

theorem pollRoute (hR : HandlerClosed R) (w : World) (route : Nat) :
    R w (w.pollRoute route) := by
  unfold World.pollRoute
  split
  · split
    · exact hR.trans (hR.trans (hR.wakeUp w route) (hR.attempt fun _ => hR.respondWith))
        (hR.drain _ _ _)
    · exact hR.refl w
  · exact hR.drain w route _

end HandlerClosed

/-! ## The footprint of a handler -/

@[simp]
theorem wake_registrar (w : World) (t : Task) : (w.wake t).registrar = w.registrar := by
  unfold wake
  split <;> rfl

@[simp]
theorem wake_runners (w : World) (t : Task) : (w.wake t).runners = w.runners := by
  unfold wake
  split <;> rfl

theorem mem_ready_wake {w : World} {t t' : Task} (h : t' ∈ (w.wake t).ready) :
    t' ∈ w.ready ∨ t' = t := by
  unfold wake at h
  split at h
  · exact .inl h
  · simpa using h

theorem wakeRoutes_spec (w : World) (ids : List Nat) :
    (w.wakeRoutes ids).registrar = w.registrar ∧ (w.wakeRoutes ids).tokens = w.tokens ∧
      (w.wakeRoutes ids).runners = w.runners ∧
      ∀ t ∈ (w.wakeRoutes ids).ready, t ∈ w.ready ∨ ∃ id, t = .route id := by
  induction ids generalizing w with
  | nil => exact ⟨rfl, rfl, rfl, fun t ht => .inl ht⟩
  | cons id ids ih =>
    have hstep : w.wakeRoutes (id :: ids) = (w.wake (.route id)).wakeRoutes ids := rfl
    obtain ⟨h₁, h₂, h₃, h₄⟩ := ih (w.wake (.route id))
    rw [hstep]
    refine ⟨by simpa using h₁, by simpa [wake_tokens] using h₂, by simpa using h₃, fun t ht => ?_⟩
    rcases h₄ t ht with h | h
    · rcases mem_ready_wake h with h | rfl
      · exact .inl h
      · exact .inr ⟨id, rfl⟩
    · exact .inr h

theorem gear_modifyRunner (w : World) (svc : Nat) {f : Runner → Runner}
    (hf : ∀ r, (f r).gear = r.gear) :
    (w.modifyRunner svc f).runners.map Runner.gear = w.runners.map Runner.gear := by
  apply Array.ext_getElem?
  intro i
  simp only [modifyRunner, Array.getElem?_map, Array.getElem?_modify]
  split <;> simp [Option.map_map, Function.comp_def, hf]

/-- What a handler's effect leaves as it was: the registrar, the tokens, every runner up to its
counters and reports, and the liveness of every route; of the tasks, only routes' are woken. -/
structure Quiet (w w' : World) : Prop where
  registrar : w'.registrar = w.registrar
  tokens : w'.tokens = w.tokens
  gear : w'.runners.map Runner.gear = w.runners.map Runner.gear
  routes : w.bus.Fades (fun _ => False) w'.bus
  ready : ∀ t ∈ w'.ready, t ∈ w.ready ∨ ∃ id, t = .route id

theorem Quiet.refl (w : World) : Quiet w w :=
  ⟨rfl, rfl, rfl, Fades.refl _ _, fun _ h => .inl h⟩

theorem Quiet.trans {w₁ w₂ w₃ : World} (h₁ : Quiet w₁ w₂) (h₂ : Quiet w₂ w₃) : Quiet w₁ w₃ := by
  refine ⟨h₂.registrar.trans h₁.registrar, h₂.tokens.trans h₁.tokens, h₂.gear.trans h₁.gear,
    h₁.routes.trans h₂.routes, fun t ht => ?_⟩
  rcases h₂.ready t ht with h | h
  · exact h₁.ready t h
  · exact .inr h

theorem Quiet.of_eq {w w' : World} (hg : w'.registrar = w.registrar) (ht : w'.tokens = w.tokens)
    (hr : w'.runners = w.runners) (hb : w'.bus = w.bus) (hready : w'.ready = w.ready) :
    Quiet w w' :=
  ⟨hg, ht, by rw [hr], hb ▸ Fades.refl _ _, fun t h => .inl (hready ▸ h)⟩

theorem quiet_publish {w w' : World} {m : Message} (h : w.publish m = .ok w') : Quiet w w' := by
  have hg := (publish_grows h).fades (fun _ => False)
  unfold World.publish at h
  split at h
  · cases h
  · cases h
    obtain ⟨h₁, h₂, h₃, h₄⟩ := wakeRoutes_spec { w with bus := ‹_› } ‹List Nat›
    exact ⟨h₁, h₂, by rw [h₃], hg, h₄⟩

theorem handlerClosed_quiet : HandlerClosed Quiet where
  refl := Quiet.refl
  trans := Quiet.trans
  publish := quiet_publish
  count w svc _ _ := ⟨rfl, rfl, gear_modifyRunner w svc fun _ => rfl, Fades.refl _ _,
    fun _ h => .inl h⟩
  note _ _ _ := Quiet.of_eq rfl rfl rfl rfl rfl
  listen _ _ _ := Quiet.of_eq rfl rfl rfl rfl rfl
  nap _ _ := Quiet.of_eq rfl rfl rfl rfl rfl
  reply _ _ _ := Quiet.of_eq rfl rfl rfl rfl rfl
  take w id rest :=
    ⟨rfl, rfl, rfl, @fades_modify _ w.bus id (fun r => { r with channel := rest })
      (fun _ => ⟨rfl, rfl, rfl⟩) _, fun _ h => .inl h⟩
  wakeUp _ _ := Quiet.of_eq rfl rfl rfl rfl rfl

theorem quiet_report (w : World) (svc : Nat) : Quiet w (w.report svc) := by
  unfold report
  split
  · exact Quiet.refl w
  · dsimp only
    refine Quiet.trans ?_ (handlerClosed_quiet.attempt fun _ => handlerClosed_quiet.publishNow)
    exact ⟨rfl, rfl, gear_modifyRunner w svc fun _ => rfl, Fades.refl _ _, fun _ h => .inl h⟩

/-! ## The footprint of a run loop -/

/-- Route `id` is the ping route of service `svc`. -/
def pingOf (w : World) (svc id : Nat) : Prop := ∃ r, w.runner? svc = some r ∧ r.ping = some id

theorem pingOf_iff {w w' : World} (h : w'.runners.map (·.ping) = w.runners.map (·.ping))
    (svc id : Nat) : w'.pingOf svc id ↔ w.pingOf svc id := by
  have hsvc := congrArg (·[svc]?) h
  simp only [Array.getElem?_map] at hsvc
  unfold pingOf runner?
  constructor
  · rintro ⟨r', hr', hp'⟩
    rw [hr'] at hsvc
    obtain ⟨r, hr, hp⟩ := Option.map_eq_some_iff.mp hsvc.symm
    exact ⟨r, hr, hp.trans hp'⟩
  · rintro ⟨r, hr, hp⟩
    rw [hr] at hsvc
    obtain ⟨r', hr', hp'⟩ := Option.map_eq_some_iff.mp hsvc
    exact ⟨r', hr', hp'.trans hp⟩

/-- What the run loop of service `svc` may do beyond a handler's effects: change its own runner,
apart from its ping route, and retire that ping route. -/
structure LoopQuiet (svc : Nat) (w w' : World) : Prop where
  registrar : w'.registrar = w.registrar
  tokens : w'.tokens = w.tokens
  others : ∀ i, i ≠ svc → (w'.runner? i).map Runner.gear = (w.runner? i).map Runner.gear
  pings : w'.runners.map (·.ping) = w.runners.map (·.ping)
  routes : w.bus.Fades (w.pingOf svc) w'.bus
  ready : ∀ t ∈ w'.ready, t ∈ w.ready ∨ ∃ id, t = .route id

theorem Quiet.loopQuiet {w w' : World} (h : Quiet w w') (svc : Nat) : LoopQuiet svc w w' := by
  have hgear (i : Nat) : (w'.runner? i).map Runner.gear = (w.runner? i).map Runner.gear := by
    simpa only [runner?, Array.getElem?_map] using congrArg (·[i]?) h.gear
  refine ⟨h.registrar, h.tokens, fun i _ => hgear i, ?_, h.routes.mono fun _ h => h.elim,
    h.ready⟩
  have hping : ∀ v : World, v.runners.map (·.ping) = (v.runners.map Runner.gear).map (·.ping) :=
    fun v => by rw [Array.map_map]; rfl
  rw [hping w', hping w, h.gear]

theorem LoopQuiet.trans {svc : Nat} {w₁ w₂ w₃ : World} (h₁ : LoopQuiet svc w₁ w₂)
    (h₂ : LoopQuiet svc w₂ w₃) : LoopQuiet svc w₁ w₃ := by
  refine ⟨h₂.registrar.trans h₁.registrar, h₂.tokens.trans h₁.tokens,
    fun i hi => (h₂.others i hi).trans (h₁.others i hi), h₂.pings.trans h₁.pings,
    h₁.routes.trans (h₂.routes.mono fun id h => (pingOf_iff h₁.pings svc id).mp h), fun t ht => ?_⟩
  rcases h₂.ready t ht with h | h
  · exact h₁.ready t h
  · exact .inr h

theorem loopQuiet_modifyRunner (w : World) (svc : Nat) {f : Runner → Runner}
    (hf : ∀ r, (f r).ping = r.ping) : LoopQuiet svc w (w.modifyRunner svc f) := by
  refine ⟨rfl, rfl, fun i hi => ?_, ?_, Fades.refl _ _, fun _ h => .inl h⟩
  · simp [runner?, modifyRunner, Array.getElem?_modify, Ne.symm hi]
  · apply Array.ext_getElem?
    intro i
    simp only [modifyRunner, Array.getElem?_map, Array.getElem?_modify]
    split <;> simp [Option.map_map, Function.comp_def, hf]

theorem loopQuiet_stopLoop (w : World) (svc : Nat) : LoopQuiet svc w (w.stopLoop svc) := by
  unfold stopLoop
  split
  · exact (Quiet.refl w).loopQuiet svc
  · next r hr =>
    refine LoopQuiet.trans ?_ (loopQuiet_modifyRunner _ svc fun _ => rfl)
    -- the ping route goes first, if there is one
    split
    · next id hp =>
      exact ⟨rfl, rfl, fun _ _ => rfl, rfl,
        (fades_unsubscribe w.bus id).mono fun _ h => ⟨r, hr, h ▸ hp⟩, fun _ h => .inl h⟩
    · exact (Quiet.refl w).loopQuiet svc

theorem loopQuiet_pollLoop (w : World) (svc fuel : Nat) :
    LoopQuiet svc w (w.pollLoop svc fuel) := by
  induction fuel generalizing w with
  | zero => exact (Quiet.refl w).loopQuiet svc
  | succ fuel ih =>
    unfold pollLoop
    split
    · exact (Quiet.refl w).loopQuiet svc
    · split
      · split
        · exact loopQuiet_stopLoop w svc
        · split
          · -- the oldest queued envelope goes to the bus
            dsimp only
            refine (loopQuiet_modifyRunner _ svc ?_).trans
              (((handlerClosed_quiet.attempt fun _ => handlerClosed_quiet.publishNow).loopQuiet
                svc).trans (ih _))
            intro r
            rfl
          · split
            · -- a report is due
              dsimp only
              refine (loopQuiet_modifyRunner _ svc ?_).trans
                (((quiet_report _ svc).loopQuiet svc).trans (ih _))
              intro r
              rfl
            · exact (Quiet.refl w).loopQuiet svc
      · exact (Quiet.refl w).loopQuiet svc

/-! ## Waits -/

/-- One turn of the scheduler: the first ready task runs. -/
def turn (w : World) : World :=
  match w.ready with
  | [] => w
  | t :: rest => { w with ready := rest }.poll t

theorem turn_of_ready {w : World} {t : Task} {rest : List Task} (hr : w.ready = t :: rest) :
    w.turn = { w with ready := rest }.poll t := by
  simp [turn, hr]

/-- What every turn of a ready task keeps, a turn keeps. -/
theorem turn_induction (P : World → Prop)
    (hturn : ∀ w t rest, P w → w.ready = t :: rest → P ({ w with ready := rest }.poll t))
    {w : World} (hw : P w) : P w.turn := by
  unfold turn
  split
  · exact hw
  · next t rest hready => exact hturn w t rest hw hready

/-- What every turn of a ready task keeps, settling keeps. -/
theorem settle_induction (P : World → Prop)
    (hturn : ∀ w t rest, P w → w.ready = t :: rest → P ({ w with ready := rest }.poll t))
    {w : World} (hw : P w) (fuel : Nat) : P (w.settle fuel) := by
  induction fuel generalizing w with
  | zero => exact hw
  | succ fuel ih =>
    unfold settle
    split
    · exact hw
    · next t rest hready => exact ih (hturn w t rest hw hready)

/-- What every turn of a ready task, every tick of the clock, every check of a wait and giving
the wait up keep, the whole wait keeps. -/
theorem await_induction (P : World → Prop) (wait : Wait)
    (hturn : ∀ w t rest, P w → w.ready = t :: rest → P ({ w with ready := rest }.poll t))
    (htick : ∀ w t, P w → P ({ w with now := t }.fire t))
    (hcheck : ∀ w w' o, P w → w.check wait = some (w', o) → P w')
    (habandon : ∀ w, P w → P (w.abandon wait))
    {w : World} (hw : P w) (limit fuel : Nat) : P (w.await wait limit fuel).1 := by
  induction fuel generalizing w with
  | zero => exact habandon w hw
  | succ fuel ih =>
    simp only [await]
    have hsettled := settle_induction P hturn hw pollBudget
    split
    · next r hr => exact hcheck _ r.1 r.2 hsettled hr
    · split
      · next r hr => exact hcheck _ r.1 r.2 (htick _ _ hsettled) hr
      · split
        · exact habandon _ (htick _ _ hsettled)
        · exact ih (htick _ _ hsettled)

theorem conclude_induction (P : World → Prop) (wait : Wait)
    (hturn : ∀ w t rest, P w → w.ready = t :: rest → P ({ w with ready := rest }.poll t))
    (htick : ∀ w t, P w → P ({ w with now := t }.fire t))
    (hcheck : ∀ w w' o, P w → w.check wait = some (w', o) → P w')
    (habandon : ∀ w, P w → P (w.abandon wait))
    {w : World} (hw : P w) (patience : Nat) :
    P ((Progress.waiting w wait).conclude patience).1 := by
  simp only [Progress.conclude]
  split
  · next r hr => exact hcheck _ r.1 r.2 hw hr
  · exact await_induction P wait hturn htick hcheck habandon hw _ _

end World

end Runtime

end Courier
