import Courier.Proofs.Delivery
import Mathlib.Data.List.Forall2

/-!
# What tasks and waits leave alone

While an operation waits, the ready tasks run, the clock fires timers and the wait's checks take
what arrived. None of this opens a subscription, revives a retired route, makes a token or
changes a client stream other than by moving messages through its channel: every such step is
`Calm` (`poll_calm`, `settle_calm`, `fire_calm`, `check_calm`, `await_calm`). The handlers only
add messages to channels (`handle_grows`); what a task does beyond them is to take messages out
of channels and to retire routes.

A route is never taken out of the table: retiring it marks it dead and keeps it in its place
(`Keeps`), so the routes a table holds are every route it has ever had.
-/

namespace Courier

namespace Bus

variable {α : Type}

/-- A route as a later table holds it: the same id and handler, and live only if it was. -/
def Route.Kept (r r' : Route α) : Prop :=
  r'.id = r.id ∧ r'.handler = r.handler ∧ (r'.live = true → r.live = true)

theorem Route.Kept.refl (r : Route α) : r.Kept r := ⟨rfl, rfl, fun h => h⟩

theorem Route.Kept.trans {r₁ r₂ r₃ : Route α} (h₁ : r₁.Kept r₂) (h₂ : r₂.Kept r₃) : r₁.Kept r₃ :=
  ⟨h₂.1.trans h₁.1, h₂.2.1.trans h₁.2.1, fun h => h₁.2.2 (h₂.2.2 h)⟩

theorem forall₂_kept_trans : ∀ {l₁ l₂ l₃ : List (Route α)},
    List.Forall₂ Route.Kept l₁ l₂ → List.Forall₂ Route.Kept l₂ l₃ → List.Forall₂ Route.Kept l₁ l₃
  | [], [], [], .nil, .nil => .nil
  | _ :: _, _ :: _, _ :: _, .cons h₁ t₁, .cons h₂ t₂ =>
    .cons (h₁.trans h₂) (forall₂_kept_trans t₁ t₂)

namespace Table

/-- `b'` holds the routes of `b`, in their places, none revived. -/
def Keeps (b b' : Table α) : Prop := List.Forall₂ Route.Kept b.routes b'.routes

theorem Keeps.refl (b : Table α) : Keeps b b :=
  List.forall₂_same.mpr fun r _ => Route.Kept.refl r

theorem Keeps.trans {b₁ b₂ b₃ : Table α} (h₁ : Keeps b₁ b₂) (h₂ : Keeps b₂ b₃) : Keeps b₁ b₃ :=
  forall₂_kept_trans h₁ h₂

theorem Grows.keeps {b b' : Table α} (h : Grows b b') : Keeps b b' := by
  obtain ⟨-, more, hr⟩ := h
  unfold Keeps
  rw [hr]
  exact List.forall₂_map_right_iff.mpr (List.forall₂_same.mpr fun r _ => ⟨rfl, rfl, fun h => h⟩)

theorem keeps_modify (b : Table α) (id : Nat) {f : Route α → Route α}
    (hf : ∀ r : Route α, Route.Kept r (f r)) :
    Keeps b (b.modify id f) := by
  unfold Keeps modify
  refine List.forall₂_map_right_iff.mpr (List.forall₂_same.mpr fun r _ => ?_)
  split
  · exact hf r
  · exact Route.Kept.refl r

theorem keeps_remove (b : Table α) (id : Nat) : Keeps b (b.remove id).1 := by
  unfold remove
  split
  · exact keeps_modify _ _ fun r => ⟨rfl, rfl, fun h => absurd h (by simp)⟩
  · exact Keeps.refl b

theorem unsubscribe_routes (b : Table α) (id : Nat) :
    (b.unsubscribe id).routes = (b.remove id).1.routes := by
  unfold unsubscribe
  cases b.remove id with
  | mk b' was => cases was <;> rfl

theorem keeps_unsubscribe (b : Table α) (id : Nat) : Keeps b (b.unsubscribe id) := by
  unfold Keeps
  rw [unsubscribe_routes]
  exact keeps_remove b id

end Table

end Bus

namespace Runtime

open Bus Bus.Table

/-- A client stream apart from its channel: what only the stream's own calls change. -/
def CallStream.control (s : CallStream) : CallStream := { s with channel := [] }

namespace World

/-- What the tasks and a wait's checks may do to a world: move messages through the channels of
streams and routes, and retire routes. Client streams apart from their channels, the routes of
the table and the shape of the token forest stay. -/
structure Calm (w w' : World) : Prop where
  streams : w'.streams.map CallStream.control = w.streams.map CallStream.control
  routes : Keeps w.bus w'.bus
  parents : w'.tokens.parents = w.tokens.parents

theorem Calm.refl (w : World) : Calm w w := ⟨rfl, Keeps.refl _, rfl⟩

theorem Calm.trans {w₁ w₂ w₃ : World} (h₁ : Calm w₁ w₂) (h₂ : Calm w₂ w₃) : Calm w₁ w₃ :=
  ⟨h₂.streams.trans h₁.streams, h₁.routes.trans h₂.routes, h₂.parents.trans h₁.parents⟩

theorem foldl_calm {β : Type} {f : World → β → World} (hf : ∀ w b, Calm w (f w b)) :
    ∀ (l : List β) (w : World), Calm w (l.foldl f w)
  | [], w => Calm.refl w
  | b :: l, w => (hf w b).trans (foldl_calm hf l (f w b))

/-! ## Steps that move messages -/

theorem wake_calm (w : World) (t : Task) : Calm w (w.wake t) := by
  unfold wake
  split
  · exact Calm.refl w
  · exact ⟨rfl, Keeps.refl _, rfl⟩

theorem wakeRoutes_calm (w : World) (ids : List Nat) : Calm w (w.wakeRoutes ids) :=
  foldl_calm (fun w id => wake_calm w (.route id)) ids w

theorem modifyRunner_calm (w : World) (svc : Nat) (f : Runner → Runner) :
    Calm w (w.modifyRunner svc f) :=
  ⟨rfl, Keeps.refl _, rfl⟩

theorem count_calm (w : World) (svc : Nat) (inbound : Bool) (bytes : Nat) :
    Calm w (w.count svc inbound bytes) :=
  modifyRunner_calm _ _ _

theorem note_calm (w : World) (sub : Nat) (r : Receipt) : Calm w (w.note sub r) :=
  ⟨rfl, Keeps.refl _, rfl⟩

theorem modifyStream_calm (w : World) (i : Nat) {f : CallStream → CallStream}
    (hf : ∀ s, (f s).control = s.control) : Calm w (w.modifyStream i f) := by
  refine ⟨?_, Keeps.refl _, rfl⟩
  apply Array.ext_getElem?
  intro j
  simp only [modifyStream, Array.getElem?_map, Array.getElem?_modify]
  split <;> simp [Option.map_map, Function.comp_def, hf]

theorem unsubscribeRoute_calm (w : World) (id : Nat) : Calm w (w.unsubscribeRoute id) :=
  ⟨rfl, keeps_unsubscribe _ _, rfl⟩

theorem dropRoute_calm (w : World) (id : Nat) : Calm w (w.dropRoute id) :=
  ⟨rfl, keeps_remove _ _, rfl⟩

theorem publish_calm {w w' : World} {m : Message} (h : w.publish m = .ok w') : Calm w w' := by
  have hg := publish_grows h
  unfold World.publish at h
  split at h
  · cases h
  · cases h
    exact ⟨(wakeRoutes_calm _ _).streams, hg.keeps, (wakeRoutes_calm _ _).parents⟩

theorem publishNow_calm {w w' : World} {svc : Nat} {m : Message}
    (h : w.publishNow svc m = .ok w') : Calm w w' := by
  unfold publishNow at h
  split at h
  · cases h
  · rename_i w₁ hp
    cases h
    exact (publish_calm hp).trans (count_calm _ _ _ _)

theorem respondWith_calm {w w' : World} {svc : Nat} {d : Message} {p : ByteArray} {hs : Headers}
    (h : w.respondWith svc d p hs = .ok w') : Calm w w' := by
  unfold respondWith at h
  split at h
  · cases h
  · exact publishNow_calm h

theorem respond_calm {w w' : World} {svc : Nat} {d : Message} {v : Json.Value}
    (h : w.respond svc d v = .ok w') : Calm w w' :=
  respondWith_calm h

theorem respondError_calm {w w' : World} {svc : Nat} {d : Message} {text : String}
    (h : w.respondError svc d text = .ok w') : Calm w w' :=
  respondWith_calm h

theorem attempt_calm {w : World} {r : Except ServiceError World}
    (h : ∀ w', r = .ok w' → Calm w w') : Calm w (w.attempt r) := by
  unfold attempt
  split
  · exact h _ rfl
  · exact Calm.refl w

theorem sendAll_calm {w w' : World} {svc : Nat} {d : Message} {hs : Headers}
    {vs : List Json.Value} (h : w.sendAll svc d hs vs = .ok w') : Calm w w' := by
  induction vs generalizing w with
  | nil => cases h; exact Calm.refl _
  | cons v vs ih =>
    unfold sendAll at h
    split at h
    · rename_i w₁ h₁
      exact (respondWith_calm h₁).trans (ih h)
    · cases h

theorem endStream_calm {w : World} {svc : Nat} {d : Message} {label : String}
    {r : Except String World} (h : ∀ w', r = .ok w' → Calm w w') :
    Calm w (w.endStream svc d label r) := by
  unfold endStream
  split
  · exact h _ rfl
  · split
    · exact attempt_calm fun _ => respondError_calm
    · exact Calm.refl w

/-! ## Handlers and tasks -/

theorem serveUnary_calm (w : World) (route svc : Nat) (m : Message) (label : String)
    (slow : Bool) : Calm w (w.serveUnary route svc m label slow).1 := by
  unfold serveUnary
  split
  · exact attempt_calm fun _ => respondError_calm
  · split
    · exact ⟨rfl, Keeps.refl _, rfl⟩
    · split
      · exact attempt_calm fun _ => respondError_calm
      · exact attempt_calm fun _ => respond_calm

theorem serveStream_calm (w : World) (svc : Nat) (m : Message) (label : String)
    (style : StreamStyle) : Calm w (w.serveStream svc m label style) := by
  unfold serveStream
  apply endStream_calm
  intro w' h
  split at h
  · cases h
  · split at h
    · exact sendAll_calm (mapError_eq_ok h)
    · exact sendAll_calm (mapError_eq_ok h)
    · split at h
      · cases h
      · exact sendAll_calm (mapError_eq_ok h)

theorem serveBidi_calm (w : World) (svc : Nat) (m : Message) (label : String) :
    Calm w (w.serveBidi svc m label) := by
  unfold serveBidi
  apply endStream_calm
  intro w' h
  split at h
  · cases h
  · exact sendAll_calm (mapError_eq_ok h)

theorem perform_calm (w : World) (route svc : Nat) (m : Message) (duty : Duty) :
    Calm w (w.perform route svc m duty).1 := by
  cases duty with
  | note sub shape answer failWith =>
    cases answer with
    | some v =>
      cases hr : w.respond svc m v with
      | ok w₁ => simpa [perform, hr] using (respond_calm hr).trans (note_calm w₁ sub _)
      | error e => simpa [perform, hr] using note_calm w sub _
    | none =>
      cases failWith with
      | some t =>
        cases hr : w.respondError svc m t with
        | ok w₁ => simpa [perform, hr] using (respondError_calm hr).trans (note_calm w₁ sub _)
        | error e => simpa [perform, hr] using note_calm w sub _
      | none => simpa [perform] using note_calm w sub _
  | sum =>
    simp only [perform]
    split
    · exact attempt_calm fun _ => respond_calm
    · exact attempt_calm fun _ => respondError_calm
  | ping =>
    simp only [perform]
    split
    · exact attempt_calm fun _ => respond_calm
    · exact Calm.refl w
  | listen i =>
    -- a reply for a client stream joins its channel
    simp only [perform]
    split
    · split
      · exact Calm.refl w
      · exact modifyStream_calm w i fun s => rfl
    · exact Calm.refl w
  | unary label slow => exact serveUnary_calm w route svc m label slow
  | serverStream label style => exact serveStream_calm w svc m label style
  | bidi label => exact serveBidi_calm w svc m label

theorem echo_calm (w : World) (m : Message) : Calm w (w.echo m) := by
  unfold echo
  split
  · split
    · exact publish_calm ‹_›
    · exact Calm.refl w
  · exact Calm.refl w

theorem handle_calm (w : World) (route : Nat) (m : Message) (h : Handler) :
    Calm w (w.handle route m h).1 := by
  cases h with
  | note sub echo =>
    cases echo
    · simpa [handle] using note_calm w sub (.raw m)
    · simpa [handle] using (note_calm w sub (.raw m)).trans (echo_calm _ m)
  | inbox =>
    simp only [handle]
    split
    · exact Calm.refl w
    · exact ⟨rfl, Keeps.refl _, rfl⟩
  | service svc duty =>
    simp only [handle]
    have hcount : Calm w (if w.verifies svc m then w.count svc true m.size else w) := by
      split
      · exact count_calm _ _ _ _
      · exact Calm.refl w
    exact hcount.trans (perform_calm _ route svc m duty)

theorem drain_calm (w : World) (route fuel : Nat) : Calm w (w.drain route fuel) := by
  induction fuel generalizing w with
  | zero => exact Calm.refl w
  | succ fuel ih =>
    unfold drain
    split
    · exact Calm.refl w
    · split
      · exact Calm.refl w
      · split
        · exact Calm.refl w
        · -- the handler gets the first message, taken out of the route's channel
          rename_i r _ _ _ m rest _
          have htake :
              Calm w { w with bus := w.bus.modify route fun r => { r with channel := rest } } :=
            ⟨rfl, keeps_modify _ _ fun r => ⟨rfl, rfl, fun h => h⟩, rfl⟩
          have hhandle := htake.trans (handle_calm _ route m r.handler)
          dsimp only
          split
          · exact hhandle
          · exact hhandle.trans (ih _)

theorem pollRoute_calm (w : World) (route : Nat) : Calm w (w.pollRoute route) := by
  unfold pollRoute
  split
  · split
    · have hnap : Calm w { w with naps := w.naps.filter (·.route != route) } :=
        ⟨rfl, Keeps.refl _, rfl⟩
      exact (hnap.trans (attempt_calm fun _ => respondWith_calm)).trans (drain_calm _ _ _)
    · exact Calm.refl w
  · exact drain_calm w route _

theorem report_calm (w : World) (svc : Nat) : Calm w (w.report svc) := by
  unfold report
  split
  · exact Calm.refl w
  · exact (modifyRunner_calm _ _ _).trans (attempt_calm fun _ => publishNow_calm)

theorem stopLoop_calm (w : World) (svc : Nat) : Calm w (w.stopLoop svc) := by
  unfold stopLoop
  split
  · exact Calm.refl w
  · refine Calm.trans ?_ (modifyRunner_calm _ _ _)
    -- the loop's ping subscription goes first, if it has one
    split
    · exact unsubscribeRoute_calm _ _
    · exact Calm.refl w

theorem pollLoop_calm (w : World) (svc fuel : Nat) : Calm w (w.pollLoop svc fuel) := by
  induction fuel generalizing w with
  | zero => exact Calm.refl w
  | succ fuel ih =>
    unfold pollLoop
    split
    · exact Calm.refl w
    · split
      · split
        · exact stopLoop_calm w svc
        · split
          · exact (modifyRunner_calm _ _ _).trans
              ((attempt_calm fun _ => publishNow_calm).trans (ih _))
          · split
            · exact (modifyRunner_calm _ _ _).trans ((report_calm _ _).trans (ih _))
            · exact Calm.refl w
      · exact Calm.refl w

theorem pollWatcher_calm (w : World) : Calm w w.pollWatcher := by
  unfold pollWatcher
  split
  · split
    · rename_i g _ _
      have hsubs := foldl_calm (fun w id => unsubscribeRoute_calm w id) g.subscriptions w
      exact hsubs.trans ⟨rfl, Keeps.refl _, rfl⟩
    · exact Calm.refl w
  · exact Calm.refl w

/-- Every task leaves the world calm. -/
theorem poll_calm (w : World) (t : Task) : Calm w (w.poll t) := by
  cases t with
  | route id => exact pollRoute_calm w id
  | loop svc => exact pollLoop_calm w svc _
  | watcher => exact pollWatcher_calm w
  | release id => exact unsubscribeRoute_calm w id

theorem settle_calm (w : World) (fuel : Nat) : Calm w (w.settle fuel) := by
  induction fuel generalizing w with
  | zero => exact Calm.refl w
  | succ fuel ih =>
    unfold settle
    split
    · exact Calm.refl w
    · rename_i t rest _
      have hpop : Calm w { w with ready := rest } := ⟨rfl, Keeps.refl _, rfl⟩
      exact (hpop.trans (poll_calm _ t)).trans (ih _)

theorem fire_calm (w : World) (t : Nat) : Calm w (w.fire t) := by
  unfold fire
  refine (foldl_calm (fun w i => ?_) _ w).trans (foldl_calm (fun w nap => ?_) _ _)
  · split
    · split
      · split
        · exact wake_calm _ _
        · exact Calm.refl w
      · exact Calm.refl w
    · exact Calm.refl w
  · split
    · exact wake_calm _ _
    · exact Calm.refl w

/-! ## Checks and waits -/

theorem takeReply_fst {w w₁ : World} {inbox : Nat} {m : Message}
    (h : w.takeReply inbox = some (w₁, m)) : w₁ = w.dropRoute inbox := by
  obtain ⟨_, -, he⟩ := Option.map_eq_some_iff.mp h
  exact (Prod.mk.inj he).1.symm

theorem countReply_calm (w : World) (svc : Nat) (m : Message) : Calm w (w.countReply svc m) := by
  unfold countReply
  split
  · exact count_calm _ _ _ _
  · exact Calm.refl w

theorem offer_calm {w w' : World} {svc : Nat} {m : Message} {o : Outcome}
    (h : w.offer svc m = some (w', o)) : Calm w w' := by
  unfold offer at h
  split at h
  · cases h; exact Calm.refl w
  · split at h
    · cases h; exact Calm.refl w
    · split at h
      · cases h; exact Calm.refl w
      · split at h
        · cases h
          split
          · exact (modifyRunner_calm _ _ _).trans (wake_calm _ _)
          · exact modifyRunner_calm _ _ _
        · cases h

/-- A check that ends a wait only takes a reply out of its inbox or a message out of a stream's
channel. -/
theorem check_calm {w w' : World} {wait : Wait} {o : Outcome}
    (h : w.check wait = some (w', o)) : Calm w w' := by
  cases wait with
  | sleep t =>
    simp only [check] at h
    split at h
    · cases h; exact Calm.refl w
    · cases h
  | reply svc inbox shape =>
    simp only [check] at h
    obtain ⟨⟨w₁, m⟩, ht, hr⟩ := Option.map_eq_some_iff.mp h
    obtain rfl := takeReply_fst ht
    have hdrop := dropRoute_calm w inbox
    cases svc with
    | none => cases hr; exact hdrop
    | some s =>
      have hcount := hdrop.trans (countReply_calm _ s m)
      cases shape with
      | none => cases hr; exact hcount
      | some sh =>
        simp only at hr
        split at hr <;> (cases hr; exact hcount)
  | call svc inbox ctx shape =>
    simp only [check] at h
    split at h
    · cases h; exact dropRoute_calm w inbox
    · obtain ⟨⟨w₁, m⟩, ht, hr⟩ := Option.map_eq_some_iff.mp h
      obtain rfl := takeReply_fst ht
      have hcount := (dropRoute_calm w inbox).trans (countReply_calm _ svc m)
      simp only at hr
      split at hr <;> (cases hr; exact hcount)
  | room svc m => exact offer_calm h
  | receive i shape =>
    simp only [check] at h
    split at h
    · cases h; exact Calm.refl w
    · split at h
      · cases h; exact Calm.refl w
      · split at h
        · cases h; exact Calm.refl w
        · split at h
          · cases h
          · -- the stream's next message leaves its channel
            split at h <;> (cases h; exact modifyStream_calm w i fun s => rfl)
  | finish svc =>
    simp only [check] at h
    split at h
    · split at h
      · cases h
      · cases h; exact Calm.refl w
    · cases h; exact Calm.refl w

theorem abandon_calm (w : World) (wait : Wait) : Calm w (w.abandon wait) := by
  cases wait with
  | reply svc inbox shape => exact dropRoute_calm w inbox
  | call svc inbox ctx shape => exact dropRoute_calm w inbox
  | _ => exact Calm.refl w

theorem await_calm (w : World) (wait : Wait) (limit fuel : Nat) :
    Calm w (w.await wait limit fuel).1 := by
  induction fuel generalizing w with
  | zero => exact abandon_calm w wait
  | succ fuel ih =>
    simp only [await]
    have hsettle := settle_calm w pollBudget
    split
    · next r hr => exact hsettle.trans (check_calm hr)
    · -- the clock moves on and the timers fire
      have hnow : ∀ (v : World) (t : Nat), Calm v { v with now := t } :=
        fun v t => ⟨rfl, Keeps.refl _, rfl⟩
      have hfire : ∀ t t', Calm w ({ w.settle pollBudget with now := t }.fire t') :=
        fun t t' => hsettle.trans ((hnow _ t).trans (fire_calm _ t'))
      split
      · next r hr => exact (hfire _ _).trans (check_calm hr)
      · split
        · exact (hfire _ _).trans (abandon_calm _ wait)
        · exact (hfire _ _).trans (ih _)

/-- An operation that waits leaves the world calm while it waits and when it ends. -/
theorem conclude_calm (w : World) (wait : Wait) (patience : Nat) :
    Calm w ((Progress.waiting w wait).conclude patience).1 := by
  simp only [Progress.conclude]
  split
  · next r hr => exact check_calm hr
  · exact await_calm w wait _ _

end World

end Runtime

end Courier
