import Courier.Proofs.Refusals

/-!
# The bus's ledger of routes

The bus counts the subscriptions made on it and the unsubscriptions that took effect. A request's
inbox is a route too, but it is not counted. A client of the bus holds what it made: the routes
of its subscriptions and the inboxes of the requests it still waits on (`BusClient`). It calls
the bus in any order (`BusCall`): it publishes, subscribes, unsubscribes and sends requests; a
request it waits on returns with its reply or is dropped; and the task of a route hands that
route's messages to its handler.

What one call can do is said once (`BusClient.Step`, `BusCall.step`). Every step keeps the
ledger balanced (`BusClient.Ledger`): the live routes are the subscriptions not yet unsubscribed
and the pending inboxes. So after any run from a fresh bus,
`active = subscribed - unsubscribed + pending` (`bus_client_laws`). Around that balance:

* a call refused for its subject leaves everything as it was;
* a request gives up its inbox on every way out: no responders, a reply, or a drop;
* unsubscribing retires the route and counts once, however often it is repeated.
-/

namespace Courier

namespace Bus

/-- Whether an error refuses a call for its subject, rather than for what the bus holds. -/
def BusError.refusesSubject : BusError → Bool
  | .invalidSubject _ | .wildcardPublish _ => true
  | .noResponders _ => false

namespace Table

variable {α : Type}

/-! ## Counting live routes -/

theorem active_eq_countP (b : Table α) : b.active = b.routes.countP (·.live) :=
  List.countP_eq_length_filter.symm

/-- Changing the one route of an id changes the count of routes with a property by what the
change does to that route. -/
theorem countP_modify {l : List (Route α)} (hl : (l.map (·.id)).Nodup) {id : Nat} {r : Route α}
    (hr : l.find? (·.id == id) = some r) (f : Route α → Route α) (p : Route α → Bool) :
    (l.map fun x => if x.id == id then f x else x).countP p + (if p r then 1 else 0) =
      l.countP p + (if p (f r) then 1 else 0) := by
  induction l with
  | nil => cases hr
  | cons x xs ih =>
    rw [List.map_cons, List.nodup_cons] at hl
    obtain ⟨hx, hxs⟩ := hl
    rw [List.find?_cons] at hr
    by_cases hid : x.id = id
    · -- the route of the id comes first, and no later route has its id
      obtain rfl : x = r := by simpa [hid] using hr
      have hrest : (xs.map fun y => if y.id == id then f y else y) = xs := by
        refine (List.map_congr_left fun y hy => ?_).trans (List.map_id' xs)
        have hne : y.id ≠ id := fun h => hx (hid ▸ h ▸ List.mem_map_of_mem hy)
        simp [hne]
      simp only [List.map_cons, hid, beq_self_eq_true, if_true, hrest, List.countP_cons]
      omega
    · have hne : (x.id == id) = false := by simpa using hid
      simp only [hne] at hr
      have := ih hxs hr
      simp only [List.map_cons, hne, Bool.false_eq_true, if_false, List.countP_cons]
      omega

/-- Taking a route out lowers the number of live routes by one exactly when the route was live,
which is what `remove` answers. -/
theorem active_remove {b : Table α} (hb : b.WellFormed) (id : Nat) :
    (b.remove id).1.active + (if (b.remove id).2 then 1 else 0) = b.active := by
  unfold remove
  cases hr : b.route? id with
  | none => simp
  | some r =>
    have key := countP_modify hb.ids_nodup hr (fun r => { r with live := false, channel := [] })
      (·.live)
    simp only [active_eq_countP, modify]
    simpa using key

theorem remove_snd_eq_true_iff (b : Table α) (id : Nat) : (b.remove id).2 = true ↔ b.Live id := by
  unfold remove Live
  cases b.route? id <;> simp

theorem fades_remove (b : Table α) (id : Nat) : b.Fades (· = id) (b.remove id).1 := by
  have h := fades_unsubscribe b id
  unfold Fades at h ⊢
  rwa [unsubscribe_routes] at h

theorem retired_remove {b : Table α} {id : Nat} (hl : b.Live id) : (b.remove id).1.Retired id := by
  obtain ⟨r, hr, hdead⟩ := (unsubscribe_live hl).1
  refine ⟨r, ?_, hdead⟩
  simpa only [route?, unsubscribe_routes] using hr

theorem not_live_of_retired {b : Table α} {id : Nat} (hd : b.Retired id) : ¬ b.Live id := by
  rintro ⟨r, hr, hlive⟩
  obtain ⟨r', hr', hdead⟩ := hd
  rw [hr] at hr'
  cases hr'
  simp [hlive] at hdead

theorem unsubscribe_unsubscribed (b : Table α) (id : Nat) :
    (b.unsubscribe id).stats.unsubscribed =
      b.stats.unsubscribed + (if (b.remove id).2 then 1 else 0) := by
  have hs := remove_stats b id
  unfold unsubscribe
  generalize b.remove id = p at hs ⊢
  obtain ⟨b', was⟩ := p
  cases was <;> simp_all

theorem unsubscribe_of_not_live {b : Table α} {id : Nat} (hl : ¬ b.Live id) :
    b.unsubscribe id = (b.remove id).1 := by
  have hwas : (b.remove id).2 = false :=
    Bool.eq_false_iff.mpr fun h => hl ((remove_snd_eq_true_iff b id).mp h)
  unfold unsubscribe
  generalize b.remove id = p at hwas ⊢
  obtain ⟨b', was⟩ := p
  cases hwas
  rfl

theorem active_unsubscribe {b : Table α} (hb : b.WellFormed) (id : Nat) :
    (b.unsubscribe id).active + (if (b.remove id).2 then 1 else 0) = b.active := by
  rw [show (b.unsubscribe id).active = (b.remove id).1.active by
    simp only [active, unsubscribe_routes]]
  exact active_remove hb id

theorem length_le_active {b : Table α} {l : List Nat} (hl : l.Nodup) (hlive : ∀ id ∈ l, b.Live id) :
    l.length ≤ b.active := by
  have hsub : l ⊆ (b.routes.filter (·.live)).map (·.id) := by
    intro id hid
    obtain ⟨r, hr, hlr⟩ := hlive id hid
    obtain ⟨hmem, rfl⟩ := mem_of_route? hr
    exact List.mem_map_of_mem (List.mem_filter.mpr ⟨hmem, hlr⟩)
  calc l.length ≤ ((b.routes.filter (·.live)).map (·.id)).length :=
        (List.subperm_of_subset hl hsub).length_le
    _ = b.active := by simp [active]

theorem live_or_retired {b : Table α} {id : Nat} {r : Route α} (hr : b.route? id = some r) :
    b.Live id ∨ b.Retired id := by
  cases hl : r.live
  · exact .inr ⟨r, hr, hl⟩
  · exact .inl ⟨r, hr, hl⟩

theorem Live.lt_nextId {b : Table α} (hb : b.WellFormed) {id : Nat} (hl : b.Live id) :
    id < b.nextId := by
  obtain ⟨r, hr, -⟩ := hl
  obtain ⟨hmem, rfl⟩ := mem_of_route? hr
  exact hb.ids_lt r hmem

/-! ## Adding a route -/

section Add

variable {b b' : Table α} {p : Subject} {g : Option String} {x : α} {id : Nat}

theorem route?_add (h : b.add p g x = .ok (b', id)) {id' : Nat} {r : Route α}
    (hr : b.route? id' = some r) : b'.route? id' = some r := by
  have hr' : b.routes.find? (·.id == id') = some r := hr
  obtain ⟨-, rfl⟩ := add_ok h
  simp [route?, List.find?_append, hr']

theorem Live.add (h : b.add p g x = .ok (b', id)) {id' : Nat} (hl : b.Live id') : b'.Live id' := by
  obtain ⟨r, hr, hlive⟩ := hl
  exact ⟨r, route?_add h hr, hlive⟩

theorem Retired.add (h : b.add p g x = .ok (b', id)) {id' : Nat} (hd : b.Retired id') :
    b'.Retired id' := by
  obtain ⟨r, hr, hdead⟩ := hd
  exact ⟨r, route?_add h hr, hdead⟩

theorem live_add (hb : b.WellFormed) (h : b.add p g x = .ok (b', id)) : b'.Live id := by
  have hwf := hb.add h
  obtain ⟨rfl, rfl⟩ := add_ok h
  exact ⟨_, route?_of_mem hwf (List.mem_append_right _ (List.mem_singleton_self _)), rfl⟩

theorem active_add (h : b.add p g x = .ok (b', id)) : b'.active = b.active + 1 := by
  obtain ⟨-, rfl⟩ := add_ok h
  simp [active]

theorem add_stats (h : b.add p g x = .ok (b', id)) : b'.stats = b.stats := by
  obtain ⟨-, rfl⟩ := add_ok h
  rfl

end Add

/-! ## Steps that keep every route's liveness -/

section Fades

variable {gone : Nat → Prop} {b b' : Table α}

theorem Fades.ids (h : b.Fades gone b') : b'.routes.map (·.id) = b.routes.map (·.id) := by
  unfold Fades at h
  generalize b.routes = l at h ⊢
  generalize b'.routes = l' at h ⊢
  induction h with
  | nil => rfl
  | cons hr _ ih => simp [ih, hr.1]

theorem Fades.wellFormed (h : b.Fades gone b') (hn : b'.nextId = b.nextId) (hb : b.WellFormed) :
    b'.WellFormed := by
  refine ⟨h.ids ▸ hb.ids_nodup, fun r' hr' => ?_⟩
  have hid : r'.id ∈ b.routes.map (·.id) := h.ids ▸ List.mem_map_of_mem hr'
  obtain ⟨r, hr, hrid⟩ := List.mem_map.mp hid
  exact hn ▸ hrid ▸ hb.ids_lt r hr

theorem Fades.live_back (h : b.Fades gone b') {id : Nat} (hl : b'.Live id) : b.Live id := by
  obtain ⟨r', hr', hlive⟩ := hl
  have hflip : List.Forall₂ (flip (Route.Fades gone)) b'.routes b.routes :=
    @List.Forall₂.flip _ _ (flip (Route.Fades gone)) _ _ h
  obtain ⟨r, hr, hf⟩ := Route.find?_of_forall₂ (fun h => h.1.symm) hflip hr'
  exact ⟨r, hr, hf.2.2.1 hlive⟩

theorem Fades.route? (h : b.Fades gone b') {id : Nat} {r : Route α} (hr : b.route? id = some r) :
    ∃ r', b'.route? id = some r' :=
  (Route.find?_of_forall₂ (fun h => h.1) h hr).imp fun _ h => h.1

theorem Fades.active (h : b.Fades (fun _ => False) b') : b'.active = b.active := by
  unfold Fades at h
  simp only [active_eq_countP]
  generalize b.routes = l at h ⊢
  generalize b'.routes = l' at h ⊢
  induction h with
  | nil => rfl
  | @cons r r' _ _ hr _ ih =>
    have hlive : r'.live = r.live := by
      cases hl : r.live
      · cases hl' : r'.live
        · rfl
        · simp [hr.2.2.1 hl'] at hl
      · exact hr.2.2.2 hl id
    simp [List.countP_cons, ih, hlive]

end Fades

theorem unsubscribe_of_live {b : Table α} {id : Nat} (hl : b.Live id) :
    (b.unsubscribe id).Retired id ∧
      (b.unsubscribe id).stats.unsubscribed = b.stats.unsubscribed + 1 ∧
      ∀ id', id' ≠ id → ((b.unsubscribe id).Live id' ↔ b.Live id') :=
  ⟨(unsubscribe_live hl).1, (unsubscribe_live hl).2, fun _ hne =>
    ⟨(fades_unsubscribe b id).live_back, fun h => (fades_unsubscribe b id).live h hne⟩⟩

theorem unsubscribe_of_retired {b : Table α} {id : Nat} (hd : b.Retired id) :
    (b.unsubscribe id).stats = b.stats ∧ ∀ id', ((b.unsubscribe id).Live id' ↔ b.Live id') := by
  have hl := not_live_of_retired hd
  refine ⟨by rw [unsubscribe_of_not_live hl, remove_stats], fun id' =>
    ⟨(fades_unsubscribe b id).live_back, fun h => (fades_unsubscribe b id).live h ?_⟩⟩
  rintro rfl
  exact hl h

end Table

end Bus

namespace Runtime

open Bus Bus.Table

namespace World

/-! ## Steps that keep the ledger's parts -/

/-- A step that keeps every route's id and liveness, the next id and the counts of subscriptions
and unsubscriptions: a publication, a handler at work, a request's count. -/
structure Steady (w w' : World) : Prop where
  routes : w.bus.Fades (fun _ => False) w'.bus
  nextId : w'.bus.nextId = w.bus.nextId
  subscribed : w'.bus.stats.subscribed = w.bus.stats.subscribed
  unsubscribed : w'.bus.stats.unsubscribed = w.bus.stats.unsubscribed

theorem Steady.of_bus {w w' : World} (h : w'.bus = w.bus) : Steady w w' :=
  ⟨h ▸ Fades.refl _ _, by rw [h], by rw [h], by rw [h]⟩

theorem Steady.refl (w : World) : Steady w w := Steady.of_bus rfl

theorem Steady.trans {w₁ w₂ w₃ : World} (h₁ : Steady w₁ w₂) (h₂ : Steady w₂ w₃) : Steady w₁ w₃ :=
  ⟨h₁.routes.trans h₂.routes, h₂.nextId.trans h₁.nextId, h₂.subscribed.trans h₁.subscribed,
    h₂.unsubscribed.trans h₁.unsubscribed⟩

theorem publish_bus_stats {w w' : World} {m : Message} (h : w.publish m = .ok w') :
    w'.bus.stats = { w.bus.stats with published := w.bus.stats.published + 1 } := by
  unfold World.publish Table.publish at h
  cases hp : publishable m.subject with
  | error e => simp [hp, Except.map] at h
  | ok u =>
    simp only [hp, Except.map, Except.ok.injEq] at h
    subst h
    simp [wakeRoutes_bus]

theorem steady_publish {w w' : World} {m : Message} (h : w.publish m = .ok w') : Steady w w' := by
  have hg := publish_grows h
  have hs := publish_bus_stats h
  exact ⟨hg.fades _, hg.1, by rw [hs], by rw [hs]⟩

theorem handlerClosed_steady : HandlerClosed Steady where
  refl := Steady.refl
  trans := Steady.trans
  publish := steady_publish
  count _ _ _ _ := Steady.of_bus rfl
  note _ _ _ := Steady.of_bus rfl
  listen _ _ _ := Steady.of_bus rfl
  nap _ _ := Steady.of_bus rfl
  reply _ _ _ := Steady.of_bus rfl
  take w id rest :=
    ⟨@fades_modify _ w.bus id (fun r => { r with channel := rest }) (fun _ => ⟨rfl, rfl, rfl⟩) _,
      rfl, rfl, rfl⟩
  wakeUp _ _ := Steady.of_bus rfl

/-! ## What publications, subscriptions and requests do -/

theorem publishable_error_refuses {s : Subject} {e : BusError} (h : publishable s = .error e) :
    e.refusesSubject = true := by
  unfold publishable at h
  split at h
  · cases h
    rfl
  · split at h <;> cases h
    rfl

theorem publish_error_refuses {w : World} {m : Message} {e : BusError}
    (h : w.publish m = .error e) : e.refusesSubject = true := by
  unfold World.publish Table.publish at h
  cases hp : publishable m.subject with
  | error e' =>
    simp only [hp, Except.map] at h
    cases h
    exact publishable_error_refuses hp
  | ok u => simp [hp, Except.map] at h

theorem subscribeRoute_error_refuses {w : World} {s : Subject} {g : Option String} {x : Handler}
    {e : BusError} (h : w.subscribeRoute s g x = .error e) : e.refusesSubject = true := by
  unfold subscribeRoute Table.add at h
  split at h
  · rename_i hadd
    split at hadd <;> cases hadd
    cases h
    rfl
  · cases h

theorem subscribeRoute_ok {w w' : World} {s : Subject} {g : Option String} {x : Handler} {id : Nat}
    (h : w.subscribeRoute s g x = .ok (w', id)) :
    ∃ b, w.bus.add s g x = .ok (b, id) ∧ w' = { w with bus := b.countSubscribe } := by
  unfold subscribeRoute at h
  split at h
  · cases h
  · rename_i b id' hadd
    cases h
    exact ⟨b, hadd, rfl⟩

/-- What a request does: refused for its subject, nothing. Otherwise it is counted, it adds its
inbox route, uncounted, and it is delivered; when it reaches no route it gives the inbox up and
fails with no responders. -/
theorem openRequest_cases (w : World) (m : Message) :
    (∃ e, publishable m.subject = .error e ∧ w.openRequest m = (w, .error e)) ∨
    ∃ (w₁ w₂ : World) (b : Table Handler) (id : Nat) (p : Subject),
      Steady w w₁ ∧ w₁.bus.add p none .inbox = .ok (b, id) ∧ Steady { w₁ with bus := b } w₂ ∧
      (w.openRequest m = (w₂, .ok id) ∨
        w.openRequest m = (w₂.dropRoute id, .error (.noResponders m.subject))) := by
  cases hp : publishable m.subject with
  | error e => exact .inl ⟨e, rfl, by simp [openRequest, hp]⟩
  | ok u =>
    right
    -- the request is counted and a fresh inbox named; the inbox's subject is valid
    let w₁ := ({ w with bus := w.bus.countRequest } : World).freshInbox.1
    let inbox := ({ w with bus := w.bus.countRequest } : World).freshInbox.2
    have h₁ : Steady w w₁ := ⟨Fades.refl _ _, rfl, rfl, rfl⟩
    let b : Table Handler := { w₁.bus with
      routes := w₁.bus.routes ++
        [{ id := w₁.bus.nextId, pattern := inbox, group := none, handler := .inbox }]
      nextId := w₁.bus.nextId + 1 }
    have hadd : w₁.bus.add inbox none .inbox = .ok (b, w₁.bus.nextId) := by
      simp [Table.add, inbox, b, freshInbox_valid]
    let w₂ := ({ w₁ with bus := b } : World).deliver { m with reply := some inbox }
    have h₂ : Steady { w₁ with bus := b } w₂.1 := by
      refine ⟨?_, ?_, ?_, ?_⟩
      · rw [deliver_fst_bus]
        exact (grows_deliver _ _).fades _
      · rw [deliver_fst_bus]
        exact deliver_nextId _ _
      all_goals simp [w₂, deliver_fst_bus]
    refine ⟨w₁, w₂.1, b, w₁.bus.nextId, inbox, h₁, hadd, h₂, ?_⟩
    have hopen : w.openRequest m = if w₂.2.isEmpty then
        (w₂.1.dropRoute w₁.bus.nextId, .error (.noResponders m.subject))
        else (w₂.1, .ok w₁.bus.nextId) := by
      simp only [openRequest, hp]
      rw [show ({ w with bus := w.bus.countRequest } : World).freshInbox = (w₁, inbox) from rfl]
      dsimp only
      rw [hadd]
    rw [hopen]
    split
    · exact .inr rfl
    · exact .inl rfl

end World

/-! ## Clients and their calls -/

/-- A client of the bus in its world: the routes of the subscriptions it made, in the order it
made them, and the inboxes of the requests it still waits on. -/
structure BusClient where
  world : World
  subscriptions : List Nat := []
  pending : List Nat := []

/-- A call a client makes on the bus, or the end of a request it waits on. Subscriptions and
pending requests are named by their place among the client's. -/
inductive BusCall where
  | publish (m : Message)
  | subscribe (subject : Subject) (group : Option String) (handler : Handler)
  | unsubscribe (k : Nat)
  | request (m : Message)
  /-- The `k`-th pending request returns with the reply its inbox kept, if one has come. -/
  | reply (k : Nat)
  /-- The caller drops the `k`-th pending request. -/
  | drop (k : Nat)
  /-- The task of a route hands the route's waiting messages to its handler. -/
  | handle (route : Nat)

/-- Makes a call: the client after it, and the error the bus answered with, if any. -/
def BusCall.apply (c : BusClient) : BusCall → BusClient × Option BusError
  | .publish m =>
    match c.world.publish m with
    | .ok w => ({ c with world := w }, none)
    | .error e => (c, some e)
  | .subscribe subject group handler =>
    match c.world.subscribeRoute subject group handler with
    | .ok (w, id) => ({ c with world := w, subscriptions := c.subscriptions ++ [id] }, none)
    | .error e => (c, some e)
  | .unsubscribe k =>
    match c.subscriptions[k]? with
    | some id => ({ c with world := c.world.unsubscribeRoute id }, none)
    | none => (c, none)
  | .request m =>
    match c.world.openRequest m with
    | (w, .ok inbox) => ({ c with world := w, pending := c.pending ++ [inbox] }, none)
    | (w, .error e) => ({ c with world := w }, some e)
  | .reply k =>
    match c.pending[k]? with
    | some inbox =>
      match c.world.takeReply inbox with
      | some (w, _) => ({ c with world := w, pending := c.pending.erase inbox }, none)
      | none => (c, none)
    | none => (c, none)
  | .drop k =>
    match c.pending[k]? with
    | some inbox =>
      let w := c.world.abandon (.reply none inbox none)
      ({ c with world := w, pending := c.pending.erase inbox }, none)
    | none => (c, none)
  | .handle route => ({ c with world := c.world.pollRoute route }, none)

namespace BusClient

/-- The clients that calls lead to, one call after another. -/
def Reaches : BusClient → BusClient → Prop :=
  Relation.ReflTransGen fun c c' => ∃ call : BusCall, (call.apply c).1 = c'

/-- What one call can do to a client, and the error it can answer with. -/
inductive Step (c : BusClient) : BusClient → Option BusError → Prop
  /-- Refused for its subject: nothing changes. -/
  | refused {e : BusError} : e.refusesSubject = true → Step c c (some e)
  /-- A handle the client does not have, or a reply not yet come: nothing changes. -/
  | idle : Step c c none
  /-- A publication or a route's task: no route's liveness moves, and nothing is counted but
  publications. -/
  | steady {w : World} : World.Steady c.world w → Step c { c with world := w } none
  | subscribe {w : World} {subject : Subject} {group : Option String} {handler : Handler}
      {id : Nat} : c.world.subscribeRoute subject group handler = .ok (w, id) →
      Step c { c with world := w, subscriptions := c.subscriptions ++ [id] } none
  | unsubscribe {id : Nat} : id ∈ c.subscriptions →
      Step c { c with world := c.world.unsubscribeRoute id } none
  /-- A request taken and delivered: its inbox waits. -/
  | request {w₁ w₂ : World} {b : Table Handler} {id : Nat} {p : Subject} :
      World.Steady c.world w₁ → w₁.bus.add p none .inbox = .ok (b, id) →
      World.Steady { w₁ with bus := b } w₂ →
      Step c { c with world := w₂, pending := c.pending ++ [id] } none
  /-- A request that reached no route: its inbox is given up at once. -/
  | noResponders {w₁ w₂ : World} {b : Table Handler} {id : Nat} {p : Subject} {s : Subject} :
      World.Steady c.world w₁ → w₁.bus.add p none .inbox = .ok (b, id) →
      World.Steady { w₁ with bus := b } w₂ →
      Step c { c with world := w₂.dropRoute id } (some (.noResponders s))
  /-- A pending request that returns or is dropped: its inbox is given up. -/
  | finish {inbox : Nat} : inbox ∈ c.pending →
      Step c { c with world := c.world.dropRoute inbox, pending := c.pending.erase inbox } none

end BusClient

/-- Every call is a step. -/
theorem BusCall.step (c : BusClient) : ∀ call : BusCall, c.Step (call.apply c).1 (call.apply c).2
  | .publish m => by
    cases hp : c.world.publish m with
    | ok w => simpa [BusCall.apply, hp] using BusClient.Step.steady (World.steady_publish hp)
    | error e =>
      simpa [BusCall.apply, hp] using BusClient.Step.refused (World.publish_error_refuses hp)
  | .subscribe subject group handler => by
    cases hs : c.world.subscribeRoute subject group handler with
    | ok r => simpa [BusCall.apply, hs] using BusClient.Step.subscribe hs
    | error e =>
      simpa [BusCall.apply, hs] using
        BusClient.Step.refused (World.subscribeRoute_error_refuses hs)
  | .unsubscribe k => by
    cases hk : c.subscriptions[k]? with
    | some id =>
      simpa [BusCall.apply, hk] using BusClient.Step.unsubscribe (List.mem_of_getElem? hk)
    | none => simpa [BusCall.apply, hk] using BusClient.Step.idle
  | .request m => by
    rcases World.openRequest_cases c.world m with
      ⟨e, hp, he⟩ | ⟨w₁, w₂, b, id, p, h₁, hadd, h₂, hok | hnr⟩
    · simpa [BusCall.apply, he] using
        BusClient.Step.refused (World.publishable_error_refuses hp)
    · simpa [BusCall.apply, hok] using BusClient.Step.request h₁ hadd h₂
    · simpa [BusCall.apply, hnr] using BusClient.Step.noResponders h₁ hadd h₂
  | .reply k => by
    cases hk : c.pending[k]? with
    | none => simpa [BusCall.apply, hk] using BusClient.Step.idle
    | some inbox =>
      cases ht : c.world.takeReply inbox with
      | none => simpa [BusCall.apply, hk, ht] using BusClient.Step.idle
      | some r =>
        obtain ⟨w, m⟩ := r
        -- taking the reply gives the inbox up
        rw [World.takeReply_fst ht] at ht
        simpa [BusCall.apply, hk, ht] using BusClient.Step.finish (List.mem_of_getElem? hk)
  | .drop k => by
    cases hk : c.pending[k]? with
    | none => simpa [BusCall.apply, hk] using BusClient.Step.idle
    | some inbox =>
      simpa [BusCall.apply, hk, World.abandon] using
        BusClient.Step.finish (List.mem_of_getElem? hk)
  | .handle route => by
    simpa [BusCall.apply] using
      BusClient.Step.steady (World.handlerClosed_steady.pollRoute c.world route)

namespace BusClient

/-! ## The ledger -/

/-- The bus's counters balance the client's routes. Its pending inboxes are distinct live routes;
its subscriptions are routes of the table and none of them; and the live routes are as many as
the subscriptions not yet unsubscribed and the pending inboxes. -/
structure Ledger (c : BusClient) : Prop where
  wellFormed : c.world.bus.WellFormed
  pending_nodup : c.pending.Nodup
  pending_live : ∀ id ∈ c.pending, c.world.bus.Live id
  subscriptions_routed : ∀ id ∈ c.subscriptions, ∃ r, c.world.bus.route? id = some r
  apart : ∀ id ∈ c.subscriptions, id ∉ c.pending
  balance : c.world.bus.active + c.world.bus.stats.unsubscribed =
    c.world.bus.stats.subscribed + c.pending.length

theorem ledger_fresh {w : World} (h : w.bus = {}) : Ledger { world := w } where
  wellFormed := h ▸ wellFormed_empty
  pending_nodup := List.nodup_nil
  pending_live _ hid := absurd hid List.not_mem_nil
  subscriptions_routed _ hid := absurd hid List.not_mem_nil
  apart _ hid := absurd hid List.not_mem_nil
  balance := by simp [h, active]

section Steps

variable {c : BusClient}

theorem Ledger.pending_lt (h : c.Ledger) {id : Nat} (hid : id ∈ c.pending) :
    id < c.world.bus.nextId :=
  (h.pending_live id hid).lt_nextId h.wellFormed

theorem Ledger.subscription_lt (h : c.Ledger) {id : Nat} (hid : id ∈ c.subscriptions) :
    id < c.world.bus.nextId := by
  obtain ⟨r, hr⟩ := h.subscriptions_routed id hid
  obtain ⟨hmem, rfl⟩ := mem_of_route? hr
  exact h.wellFormed.ids_lt r hmem

theorem Ledger.steady (h : c.Ledger) {w : World} (hs : World.Steady c.world w) :
    Ledger { c with world := w } where
  wellFormed := hs.routes.wellFormed hs.nextId h.wellFormed
  pending_nodup := h.pending_nodup
  pending_live id hid := hs.routes.live (h.pending_live id hid) not_false
  subscriptions_routed id hid := (h.subscriptions_routed id hid).elim fun _ hr => hs.routes.route? hr
  apart := h.apart
  balance := by
    show w.bus.active + w.bus.stats.unsubscribed = w.bus.stats.subscribed + c.pending.length
    rw [hs.routes.active, hs.subscribed, hs.unsubscribed]
    exact h.balance

theorem Ledger.subscribe (h : c.Ledger) {w : World} {subject : Subject} {group : Option String}
    {handler : Handler} {id : Nat} (hs : c.world.subscribeRoute subject group handler = .ok (w, id)) :
    Ledger { c with world := w, subscriptions := c.subscriptions ++ [id] } := by
  obtain ⟨b, hadd, rfl⟩ := World.subscribeRoute_ok hs
  have hid : id = c.world.bus.nextId := (add_ok hadd).1
  refine ⟨(h.wellFormed.add hadd).countSubscribe, h.pending_nodup,
    fun id' hid' => (h.pending_live id' hid').add hadd, fun id' hid' => ?_, fun id' hid' => ?_, ?_⟩
  · rcases List.mem_append.mp hid' with hid' | hid'
    · obtain ⟨r, hr⟩ := h.subscriptions_routed id' hid'
      exact ⟨r, route?_add hadd hr⟩
    · obtain ⟨r, hr, -⟩ := live_add h.wellFormed hadd
      exact ⟨r, List.mem_singleton.mp hid' ▸ hr⟩
  · rcases List.mem_append.mp hid' with hid' | hid'
    · exact h.apart id' hid'
    · -- the new route is newer than every pending inbox
      rw [List.mem_singleton.mp hid', hid]
      exact fun hp => Nat.lt_irrefl _ (h.pending_lt hp)
  · show b.active + b.stats.unsubscribed = (b.stats.subscribed + 1) + c.pending.length
    rw [active_add hadd, add_stats hadd]
    have := h.balance
    omega

theorem Ledger.unsubscribe (h : c.Ledger) {id : Nat} (hid : id ∈ c.subscriptions) :
    Ledger { c with world := c.world.unsubscribeRoute id } := by
  have hact := active_unsubscribe h.wellFormed id
  have hcount := unsubscribe_unsubscribed c.world.bus id
  refine ⟨h.wellFormed.unsubscribe id, h.pending_nodup, fun id' hid' => ?_,
    fun id' hid' => ?_, h.apart, ?_⟩
  · -- a pending inbox is no subscription, so it stays live
    exact (fades_unsubscribe _ id).live (h.pending_live id' hid') fun he => h.apart id hid (he ▸ hid')
  · obtain ⟨r, hr⟩ := h.subscriptions_routed id' hid'
    exact (fades_unsubscribe _ id).route? hr
  · show (c.world.bus.unsubscribe id).active + (c.world.bus.unsubscribe id).stats.unsubscribed =
      (c.world.bus.unsubscribe id).stats.subscribed + c.pending.length
    rw [(unsubscribe_stats c.world.bus id).2, hcount]
    have := h.balance
    omega

theorem Ledger.addInbox (h : c.Ledger) {p : Subject} {b : Table Handler} {id : Nat}
    (hadd : c.world.bus.add p none .inbox = .ok (b, id)) :
    Ledger { c with world := { c.world with bus := b }, pending := c.pending ++ [id] } := by
  have hid : id = c.world.bus.nextId := (add_ok hadd).1
  have hfresh : id ∉ c.pending := fun hp => by
    have := h.pending_lt hp
    omega
  refine ⟨h.wellFormed.add hadd, ?_, fun id' hid' => ?_, fun id' hid' => ?_,
    fun id' hid' hp => ?_, ?_⟩
  · exact List.nodup_append.mpr ⟨h.pending_nodup, List.nodup_singleton id,
      fun a ha _ hb => List.mem_singleton.mp hb ▸ fun he => hfresh (he ▸ ha)⟩
  · rcases List.mem_append.mp hid' with hid' | hid'
    · exact (h.pending_live id' hid').add hadd
    · rw [List.mem_singleton.mp hid']
      exact live_add h.wellFormed hadd
  · obtain ⟨r, hr⟩ := h.subscriptions_routed id' hid'
    exact ⟨r, route?_add hadd hr⟩
  · rcases List.mem_append.mp hp with hp | hp
    · exact h.apart id' hid' hp
    · -- the inbox is newer than every subscription
      have := h.subscription_lt hid'
      rw [List.mem_singleton.mp hp] at this
      omega
  · show b.active + b.stats.unsubscribed = b.stats.subscribed + (c.pending ++ [id]).length
    rw [active_add hadd, add_stats hadd, List.length_append, List.length_singleton]
    have := h.balance
    omega

theorem Ledger.dropRoute (h : c.Ledger) {id : Nat} (hid : id ∈ c.pending) :
    Ledger { c with world := c.world.dropRoute id, pending := c.pending.erase id } := by
  have hact := active_remove h.wellFormed id
  rw [if_pos ((remove_snd_eq_true_iff _ _).mpr (h.pending_live id hid))] at hact
  refine ⟨h.wellFormed.remove id, h.pending_nodup.erase id, fun id' hid' => ?_,
    fun id' hid' => ?_, fun id' hid' hp => h.apart id' hid' (List.mem_of_mem_erase hp), ?_⟩
  · obtain ⟨hne, hmem⟩ := h.pending_nodup.mem_erase_iff.mp hid'
    exact (fades_remove _ id).live (h.pending_live id' hmem) hne
  · obtain ⟨r, hr⟩ := h.subscriptions_routed id' hid'
    exact (fades_remove _ id).route? hr
  · show (c.world.bus.remove id).1.active + (c.world.bus.remove id).1.stats.unsubscribed =
      (c.world.bus.remove id).1.stats.subscribed + (c.pending.erase id).length
    rw [remove_stats, List.length_erase_of_mem hid]
    have := h.balance
    have := List.length_pos_of_mem hid
    omega

/-- One step keeps the ledger. -/
theorem Step.ledger {c' : BusClient} {e : Option BusError} (hs : c.Step c' e) (h : c.Ledger) :
    c'.Ledger := by
  cases hs with
  | refused _ => exact h
  | idle => exact h
  | steady hw => exact h.steady hw
  | subscribe hsub => exact h.subscribe hsub
  | unsubscribe hid => exact h.unsubscribe hid
  | request h₁ hadd h₂ => exact ((h.steady h₁).addInbox hadd).steady h₂
  | @noResponders w₁ w₂ b id p s h₁ hadd h₂ =>
    have hd := (((h.steady h₁).addInbox hadd).steady h₂).dropRoute
      (List.mem_append_right _ (List.mem_singleton_self id))
    -- the inbox given up is the one just added, newer than every pending inbox
    have hid : id = c.world.bus.nextId := (add_ok hadd).1.trans h₁.nextId
    have hfresh : id ∉ c.pending := fun hp => by
      have := h.pending_lt hp
      omega
    rwa [List.erase_append_right _ hfresh, List.erase_cons_head, List.append_nil] at hd
  | finish hid => exact h.dropRoute hid

/-- Every run of calls keeps the ledger. -/
theorem Ledger.reaches (h : c.Ledger) {c' : BusClient} (hr : c.Reaches c') : c'.Ledger := by
  induction hr with
  | refl => exact h
  | tail _ hstep ih =>
    obtain ⟨call, rfl⟩ := hstep
    exact (BusCall.step _ call).ledger ih

/-! ## What a step does to routes -/

/-- No step revives a retired route. -/
theorem Step.retired {c' : BusClient} {e : Option BusError} (hs : c.Step c' e) {id : Nat}
    (hd : c.world.bus.Retired id) : c'.world.bus.Retired id := by
  cases hs with
  | refused _ => exact hd
  | idle => exact hd
  | steady hw => exact hw.routes.retired hd
  | subscribe hsub =>
    obtain ⟨b, hadd, rfl⟩ := World.subscribeRoute_ok hsub
    exact hd.add hadd
  | unsubscribe _ => exact (fades_unsubscribe _ _).retired hd
  | request h₁ hadd h₂ => exact h₂.routes.retired ((h₁.routes.retired hd).add hadd)
  | noResponders h₁ hadd h₂ =>
    exact (fades_remove _ _).retired (h₂.routes.retired ((h₁.routes.retired hd).add hadd))
  | finish _ => exact (fades_remove _ _).retired hd

theorem Step.eq_of_refused {c' : BusClient} {e : BusError} (hs : c.Step c' (some e))
    (he : e.refusesSubject = true) : c' = c := by
  cases hs with
  | refused _ => rfl
  | noResponders => simp [BusError.refusesSubject] at he

theorem Step.retired_of_noResponders (h : c.Ledger) {c' : BusClient} {s : Subject}
    (hs : c.Step c' (some (.noResponders s))) : c'.world.bus.Retired c.world.bus.nextId := by
  cases hs with
  | refused he => simp [BusError.refusesSubject] at he
  | @noResponders w₁ w₂ b id p s' h₁ hadd h₂ =>
    have hlive : w₂.bus.Live id :=
      h₂.routes.live (live_add (h.steady h₁).wellFormed hadd) not_false
    rw [← (add_ok hadd).1.trans h₁.nextId]
    exact retired_remove hlive

theorem Step.retired_of_ended (h : c.Ledger) {c' : BusClient} {e : Option BusError}
    (hs : c.Step c' e) {id : Nat} (hid : id ∈ c.pending) (hgone : id ∉ c'.pending) :
    c'.world.bus.Retired id := by
  cases hs with
  | @finish inbox _ =>
    -- only the inbox given up leaves the pending requests
    by_cases heq : id = inbox
    · subst heq
      exact retired_remove (h.pending_live id hid)
    · exact absurd (h.pending_nodup.mem_erase_iff.mpr ⟨heq, hid⟩) hgone
  | request _ _ _ => exact absurd (List.mem_append_left _ hid) hgone
  | refused _ | idle | steady _ | subscribe _ | unsubscribe _ | noResponders _ _ _ =>
    exact absurd hid hgone

end Steps

end BusClient

/-! ## The laws of the bus -/

/-- The laws of the bus at a client. -/
structure BusLaws (c : BusClient) : Prop where
  /-- The bus counts no more unsubscriptions than subscriptions, and its live routes are the
  subscriptions not yet unsubscribed and the inboxes of the pending requests. -/
  balance : c.world.bus.stats.unsubscribed ≤ c.world.bus.stats.subscribed ∧
    c.world.bus.active =
      c.world.bus.stats.subscribed - c.world.bus.stats.unsubscribed + c.pending.length
  /-- A call refused for its subject leaves the client and its world as they were. -/
  refused : ∀ (call : BusCall) (e : BusError), (call.apply c).2 = some e →
    e.refusesSubject = true → (call.apply c).1 = c
  /-- A request that reaches no route leaves the inbox it made retired. -/
  noResponders : ∀ (m : Message) (s : Subject),
    ((BusCall.request m).apply c).2 = some (.noResponders s) →
      ((BusCall.request m).apply c).1.world.bus.Retired c.world.bus.nextId
  /-- A pending request that returns or is dropped leaves its inbox retired. -/
  ended : ∀ (call : BusCall), ∀ id ∈ c.pending, id ∉ (call.apply c).1.pending →
    (call.apply c).1.world.bus.Retired id
  /-- The route of every subscription is live or retired. -/
  routed : ∀ id ∈ c.subscriptions, c.world.bus.Live id ∨ c.world.bus.Retired id
  /-- Unsubscribing a live subscription retires its route alone and counts once; unsubscribing
  one already retired counts nothing and moves no route's liveness. -/
  unsubscribe : ∀ k id, c.subscriptions[k]? = some id →
    let b := ((BusCall.unsubscribe k).apply c).1.world.bus
    (c.world.bus.Live id → b.Retired id ∧
      b.stats.unsubscribed = c.world.bus.stats.unsubscribed + 1 ∧
      ∀ id', id' ≠ id → (b.Live id' ↔ c.world.bus.Live id')) ∧
    (c.world.bus.Retired id →
      b.stats = c.world.bus.stats ∧ ∀ id', (b.Live id' ↔ c.world.bus.Live id'))
  /-- No call revives a retired route. -/
  stays : ∀ (call : BusCall) (id : Nat), c.world.bus.Retired id →
    (call.apply c).1.world.bus.Retired id

/-- From a fresh bus, any interleaving of a client's calls keeps the laws of the bus: the live
routes balance the counters with the pending requests, a refusal changes nothing, every way out
of a request gives its inbox up, and a subscription is counted out once however often it is
unsubscribed. -/
theorem bus_client_laws {w₀ : World} (h₀ : w₀.bus = {}) {c : BusClient}
    (hrun : BusClient.Reaches { world := w₀ } c) : BusLaws c := by
  have h := (BusClient.ledger_fresh h₀).reaches hrun
  -- distinct live inboxes are no more than the live routes
  have hle := length_le_active h.pending_nodup h.pending_live
  have hbal := h.balance
  refine ⟨⟨by omega, by omega⟩, fun call e he hr => ?_, fun m s he => ?_,
    fun call id hid hgone => (BusCall.step c call).retired_of_ended h hid hgone, fun id hid => ?_,
    fun k id hk => ?_, fun call id hd => (BusCall.step c call).retired hd⟩
  · have hs := BusCall.step c call
    rw [he] at hs
    exact hs.eq_of_refused hr
  · have hs := BusCall.step c (.request m)
    rw [he] at hs
    exact hs.retired_of_noResponders h
  · obtain ⟨r, hr⟩ := h.subscriptions_routed id hid
    exact live_or_retired hr
  · have happ : ((BusCall.unsubscribe k).apply c).1.world.bus = c.world.bus.unsubscribe id := by
      simp [BusCall.apply, hk, World.unsubscribeRoute]
    simp only [happ]
    exact ⟨unsubscribe_of_live, unsubscribe_of_retired⟩

/-- A fresh bus on which a client subscribes a recording handler to `orders`, then sends a
request there. -/
theorem subscribe_then_request_laws :
    let c := ((BusCall.request { subject := ⟨"orders"⟩ }).apply
      ((BusCall.subscribe ⟨"orders"⟩ none (.note 0 true)).apply { world := {} }).1).1
    BusClient.Reaches { world := {} } c ∧ BusLaws c := by
  intro c
  have hrun : BusClient.Reaches { world := {} } c := .tail (.single ⟨_, rfl⟩) ⟨_, rfl⟩
  exact ⟨hrun, bus_client_laws rfl hrun⟩

end Runtime

end Courier
